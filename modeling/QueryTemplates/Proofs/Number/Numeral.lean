import Mathlib.Algebra.Ring.Nat
import Mathlib.Data.List.Induction
import Mathlib.Data.Nat.Digits.Defs
import QueryTemplates.Proofs.Number.Characters
import QueryTemplates.Template.Token

/-! # Decimal numerals and their values

Reading the digits of a number gives the number again. A numeral with a given number of digits stands for a
number below that power of ten, and a number below a power of ten has at most so many digits.
-/

namespace QueryTemplates

namespace Text

/-- One or more ASCII digits and nothing else. -/
def IsDigitRun (text : Text) : Prop := text ≠ [] ∧ ∀ c ∈ text, '0' ≤ c ∧ c ≤ '9'

/-- The number that decimal digits stand for. -/
def decimal (digits : Text) : Nat := Nat.ofDigits 10 (digits.reverse.map Numeral.digitValue)

end Text

namespace Numeral

/-! ## Reading numerals -/

theorem isDigit_iff {c : Char} : c.isDigit = true ↔ '0' ≤ c ∧ c ≤ '9' := by
  simp [Char.isDigit, Char.le_def]

theorem isDigits_iff {text : Text} : isDigits text = true ↔ text.IsDigitRun := by
  simp [isDigits, Text.IsDigitRun, isDigit_iff]

instance (text : Text) : Decidable text.IsDigitRun := decidable_of_iff _ isDigits_iff

theorem value_eq_decimal (digits : Text) : value digits = digits.decimal := by
  rw [Text.decimal, Nat.ofDigits_eq_foldr, List.foldr_map, List.foldr_reverse, value]
  congr 1
  funext n c
  exact Nat.add_comm _ _

theorem value_append_singleton (digits : Text) (c : Char) :
    value (digits ++ [c]) = 10 * value digits + digitValue c := by
  rw [value, List.foldl_append]
  rfl

theorem digitValue_lt {c : Char} (digit : c.isDigit = true) : digitValue c < 10 := by
  have bounds : 48 ≤ c.toNat ∧ c.toNat ≤ 57 := by
    simp only [Char.isDigit, Bool.and_eq_true, decide_eq_true_eq, ge_iff_le, UInt32.le_iff_toNat_le] at digit
    exact digit
  rw [digitValue]
  omega

/-- The number that digits describe has at most as many digits. -/
theorem value_lt {digits : Text} (all : ∀ c ∈ digits, c.isDigit = true) :
    value digits < 10 ^ digits.length := by
  induction digits using List.reverseRecOn with
  | nil => exact Nat.one_pos
  | append_singleton digits c ih =>
    have before := ih fun other member => all other (List.mem_append_left _ member)
    have last := digitValue_lt (all c (List.mem_append_right _ (List.mem_singleton_self c)))
    rw [value_append_singleton, List.length_append, List.length_singleton, Nat.pow_succ]
    omega

/-! ## Writing numerals -/

theorem digitValue_digit (n : Nat) : digitValue (digit n) = n % 10 := by
  have digits : ∀ d < 10, digitValue (Char.ofNat (0x30 + d)) = d := by decide
  exact digits (n % 10) (Nat.mod_lt n (by decide))

/-- The digits of a number stand for it. -/
theorem value_ofNat (n : Nat) : value (ofNat n) = n := by
  fun_induction ofNat n with
  | case1 n small =>
    change 10 * 0 + digitValue (digit n) = n
    rw [digitValue_digit, Nat.mod_eq_of_lt small, Nat.mul_zero, Nat.zero_add]
  | case2 n _ ih =>
    rw [value_append_singleton, ih, digitValue_digit]
    omega

theorem isDigitRun_ofNat (n : Nat) : (ofNat n).IsDigitRun :=
  ⟨ofNat_ne_nil n, fun _ member => isDigit_iff.mp (isDigit_of_mem_ofNat member)⟩

theorem length_ofNat_le_iff {n count : Nat} (some_digit : 0 < count) :
    (ofNat n).length ≤ count ↔ n < 10 ^ count := by
  fun_induction ofNat n generalizing count with
  | case1 n small =>
    have bound : 10 ^ 1 ≤ 10 ^ count := Nat.pow_le_pow_right (by decide) some_digit
    simp only [List.length_singleton]
    omega
  | case2 n large ih =>
    obtain ⟨fewer, rfl⟩ := Nat.exists_eq_succ_of_ne_zero (Nat.ne_of_gt some_digit)
    rw [List.length_append, List.length_singleton, Nat.succ_eq_add_one, Nat.add_le_add_iff_right,
      Nat.pow_succ]
    rcases Nat.eq_zero_or_pos fewer with rfl | pos
    · have digits := List.length_pos_iff.mpr (ofNat_ne_nil (n / 10))
      omega
    · rw [ih pos]
      omega

/-- Digits that are not too many describe an index, unless they describe zero. -/
theorem ofNat?_decimal_eq_none_iff {digits : Text} (run : digits.IsDigitRun)
    (few : digits.length ≤ digitLimit) : Index.ofNat? digits.decimal = none ↔ digits.decimal = 0 := by
  have short : (ofNat digits.decimal).length ≤ digitLimit := by
    rw [length_ofNat_le_iff (by decide), ← value_eq_decimal]
    have below := value_lt fun c member => isDigit_iff.mpr (run.2 c member)
    exact Nat.lt_of_lt_of_le below (Nat.pow_le_pow_right (by decide) few)
  rw [Index.ofNat?]
  split
  · next valid => exact iff_of_false nofun (Nat.ne_of_gt valid.1)
  · next invalid => exact iff_of_true rfl (Nat.eq_zero_of_not_pos fun pos => invalid ⟨pos, short⟩)

theorem length_ofNat_le_of_le {n : Nat} (small : n ≤ digitLimit) : (ofNat n).length ≤ digitLimit := by
  rw [length_ofNat_le_iff (by decide)]
  exact (Nat.lt_pow_self (by decide)).trans_le (Nat.pow_le_pow_right (by decide) small)

/-- An integer has no numeral if it has more digits than are converted. -/
theorem ofInt?_eq_none_iff {i : Int} : ofInt? i = none ↔ 10 ^ digitLimit ≤ i.natAbs := by
  have limit : i.natAbs < 10 ^ digitLimit ↔ (ofNat i.natAbs).length ≤ digitLimit :=
    (length_ofNat_le_iff (by decide)).symm
  rw [← Nat.not_lt, limit]
  simp [ofInt?]

end Numeral

/-- A number that is no greater than the number of digits that are written, as an index. -/
def Index.small (value : Nat) (bounds : 0 < value ∧ value ≤ Numeral.digitLimit) : Index :=
  ⟨value, bounds.1, Numeral.length_ofNat_le_of_le bounds.2⟩

/-- The index of the first argument. -/
def Index.first : Index := .small 1 (by decide)

end QueryTemplates
