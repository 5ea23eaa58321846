import Mathlib.Logic.Basic
import Mathlib.Tactic.SplitIfs
import QueryTemplates.Text.Utf8

/-! # Decoding what was encoded

The bytes of a character are decoded to it wherever they stand, and so the bytes of a text to the text. Nothing
else is decoded. A byte below 128 is a character by itself, so that bytes on its two sides are decoded, or
refused, independently of each other.
-/

namespace QueryTemplates.Utf8

variable {position : Nat} {done : Text} {a b c d : UInt8} {rest : List UInt8}

/-! ## Sequences of bytes -/

private theorem not_lt_of_toNat (large : b.toNat ≤ a.toNat) : ¬ a < b :=
  UInt8.not_lt.mpr (UInt8.le_iff_toNat_le.mpr large)

private theorem toNat_ofNat {n : Nat} (small : n < 256) : (UInt8.ofNat n).toNat = n :=
  UInt8.toNat_ofNat_of_lt' small

theorem isContinuation_iff : isContinuation b = true ↔ 0x80 ≤ b.toNat ∧ b.toNat < 0xC0 := by
  simp [isContinuation, UInt8.lt_iff_toNat_lt, UInt8.le_iff_toNat_le]

theorem isSecond_iff : isSecond a b = true ↔ isContinuation b = true ∧
    (a.toNat = 0xE0 → 0xA0 ≤ b.toNat) ∧ (a.toNat = 0xED → b.toNat < 0xA0) ∧
    (a.toNat = 0xF0 → 0x90 ≤ b.toNat) ∧ (a.toNat = 0xF4 → b.toNat < 0x90) := by
  simp [isSecond, UInt8.lt_iff_toNat_lt, UInt8.le_iff_toNat_le, ← UInt8.toNat_inj, and_assoc,
    imp_iff_not_or]

theorem decodeFrom_one (small : a.toNat < 0x80) :
    decodeFrom position done (a :: rest) =
      decodeFrom (position + 1) (Char.ofNat a.toNat :: done) rest := by
  have first : a < 0x80 := UInt8.lt_iff_toNat_lt.mpr small
  rw [decodeFrom.eq_def]
  simp only [first, if_true]

theorem decodeFrom_two (low : 0xC2 ≤ a.toNat) (high : a.toNat < 0xE0) (second : isContinuation b = true) :
    decodeFrom position done (a :: b :: rest) =
      decodeFrom (position + 2) (Char.ofNat (a.toNat % 32 * 64 + payload b) :: done) rest := by
  have one : ¬ a < 0x80 := not_lt_of_toNat (Nat.le_trans (by decide) low)
  have two : ¬ a < 0xC2 := not_lt_of_toNat low
  have three : a < 0xE0 := UInt8.lt_iff_toNat_lt.mpr high
  rw [decodeFrom.eq_def]
  simp only [one, two, three, second, if_true, if_false]

theorem decodeFrom_three (low : 0xE0 ≤ a.toNat) (high : a.toNat < 0xF0) (second : isSecond a b = true)
    (third : isContinuation c = true) :
    decodeFrom position done (a :: b :: c :: rest) =
      decodeFrom (position + 3)
        (Char.ofNat (a.toNat % 16 * 4096 + payload b * 64 + payload c) :: done) rest := by
  have one : ¬ a < 0x80 := not_lt_of_toNat (Nat.le_trans (by decide) low)
  have two : ¬ a < 0xC2 := not_lt_of_toNat (Nat.le_trans (by decide) low)
  have three : ¬ a < 0xE0 := not_lt_of_toNat low
  have four : a < 0xF0 := UInt8.lt_iff_toNat_lt.mpr high
  rw [decodeFrom.eq_def]
  simp only [one, two, three, four, second, third, if_true, if_false, Bool.not_true, Bool.false_eq_true]

theorem decodeFrom_four (low : 0xF0 ≤ a.toNat) (high : a.toNat < 0xF5) (second : isSecond a b = true)
    (third : isContinuation c = true) (fourth : isContinuation d = true) :
    decodeFrom position done (a :: b :: c :: d :: rest) =
      decodeFrom (position + 4)
        (Char.ofNat (a.toNat % 8 * 262144 + payload b * 4096 + payload c * 64 + payload d) :: done)
        rest := by
  have one : ¬ a < 0x80 := not_lt_of_toNat (Nat.le_trans (by decide) low)
  have two : ¬ a < 0xC2 := not_lt_of_toNat (Nat.le_trans (by decide) low)
  have three : ¬ a < 0xE0 := not_lt_of_toNat (Nat.le_trans (by decide) low)
  have four : ¬ a < 0xF0 := not_lt_of_toNat low
  have five : a < 0xF5 := UInt8.lt_iff_toNat_lt.mpr high
  rw [decodeFrom.eq_def]
  simp only [one, two, three, four, five, second, third, fourth, if_true, if_false, Bool.not_true,
    Bool.false_eq_true]

/-! ## Characters and texts -/

/-- The byte that continues a sequence with the low six bits of a number. -/
private theorem continuation (n : Nat) : isContinuation (UInt8.ofNat (n % 64 + 0x80)) = true ∧
    payload (UInt8.ofNat (n % 64 + 0x80)) = n % 64 := by
  have value := toNat_ofNat (n := n % 64 + 0x80) (by omega)
  rw [isContinuation_iff, payload, value]
  omega

/-- The bytes of a character are decoded to it. -/
theorem decodeFrom_utf8EncodeChar (position : Nat) (done : Text) (c : Char) (rest : List UInt8) :
    ∃ next, decodeFrom position done (String.utf8EncodeChar c ++ rest) =
      decodeFrom next (c :: done) rest := by
  obtain ⟨n, val⟩ : ∃ n, c.val.toNat = n := ⟨_, rfl⟩
  have own : Char.ofNat n = c := val ▸ Char.ofNat_toNat c
  have valid : n < 0xD800 ∨ (0xDFFF < n ∧ n < 0x110000) := val ▸ c.valid
  simp only [String.utf8EncodeChar, val]
  -- one case for each number of bytes; the number is put together again by its bits
  split_ifs with one two three
  · refine ⟨position + 1, (decodeFrom_one ?_).trans ?_⟩
    · rw [toNat_ofNat (by omega)]
      omega
    · rw [toNat_ofNat (by omega), own]
      rfl
  · obtain ⟨second, low⟩ := continuation n
    have first := toNat_ofNat (n := n / 64 % 32 + 0xC0) (by omega)
    refine ⟨position + 2, (decodeFrom_two ?_ ?_ second).trans ?_⟩
    · omega
    · omega
    · rw [low, first, ← own]
      congr 3
      omega
  · obtain ⟨second, middle⟩ := continuation (n / 64)
    obtain ⟨third, low⟩ := continuation n
    have first := toNat_ofNat (n := n / 4096 % 16 + 0xE0) (by omega)
    have next := toNat_ofNat (n := n / 64 % 64 + 0x80) (by omega)
    refine ⟨position + 3, (decodeFrom_three ?_ ?_ ?_ third).trans ?_⟩
    · omega
    · omega
    · rw [isSecond_iff, first, next]
      exact ⟨second, by omega⟩
    · rw [middle, low, first, ← own]
      congr 3
      omega
  · obtain ⟨second, high⟩ := continuation (n / 4096)
    obtain ⟨third, middle⟩ := continuation (n / 64)
    obtain ⟨fourth, low⟩ := continuation n
    have first := toNat_ofNat (n := n / 262144 % 8 + 0xF0) (by omega)
    have next := toNat_ofNat (n := n / 4096 % 64 + 0x80) (by omega)
    refine ⟨position + 4, (decodeFrom_four ?_ ?_ ?_ third fourth).trans ?_⟩
    · omega
    · omega
    · rw [isSecond_iff, first, next]
      exact ⟨second, by omega⟩
    · rw [high, middle, low, first, ← own]
      congr 3
      omega

theorem decodeFrom_encode (text : Text) (position : Nat) (done : Text) :
    decodeFrom position done (encode text) = .ok (done.reverse ++ text) := by
  induction text generalizing position done with
  | nil => simp [encode, decodeFrom]
  | cons c text ih =>
    obtain ⟨next, step⟩ := decodeFrom_utf8EncodeChar position done c (encode text)
    rw [encode, List.flatMap_cons]
    exact step.trans ((ih next (c :: done)).trans (by simp))

/-- What is encoded is decoded to the same text. -/
theorem decode_encode (text : Text) : decode (encode text) = .ok text := decodeFrom_encode text 0 []

theorem decodeLossy_encode (text : Text) : decodeLossy (encode text) = text := by
  rw [decodeLossy, decodeMarking, decode_encode]

/-! ## Nothing else is decoded -/

theorem toNat_val_ofNat {n : Nat} (valid : n.isValidChar) : (Char.ofNat n).val.toNat = n := by
  rw [Char.ofNat, dif_pos valid]
  rfl

private theorem eq_ofNat {n : Nat} (same : a.toNat = n) : UInt8.ofNat n = a := by
  rw [← same, UInt8.ofNat_toNat]

theorem utf8EncodeChar_one (small : a.toNat < 0x80) : String.utf8EncodeChar (Char.ofNat a.toNat) = [a] := by
  have valid : a.toNat.isValidChar := .inl (by omega)
  simp only [String.utf8EncodeChar, toNat_val_ofNat valid]
  rw [if_pos (by omega), UInt8.ofNat_toNat]

theorem utf8EncodeChar_two (low : 0xC2 ≤ a.toNat) (high : a.toNat < 0xE0) (second : isContinuation b = true) :
    String.utf8EncodeChar (Char.ofNat (a.toNat % 32 * 64 + payload b)) = [a, b] := by
  rw [isContinuation_iff] at second
  obtain ⟨n, value⟩ : ∃ n, a.toNat % 32 * 64 + b.toNat % 64 = n := ⟨_, rfl⟩
  have valid : n.isValidChar := .inl (by omega)
  simp only [String.utf8EncodeChar, payload, value, toNat_val_ofNat valid]
  rw [if_neg (by omega), if_pos (by omega), eq_ofNat (a := a) (by omega), eq_ofNat (a := b) (by omega)]

theorem utf8EncodeChar_three (low : 0xE0 ≤ a.toNat) (high : a.toNat < 0xF0) (second : isSecond a b = true)
    (third : isContinuation c = true) :
    String.utf8EncodeChar (Char.ofNat (a.toNat % 16 * 4096 + payload b * 64 + payload c)) = [a, b, c] := by
  rw [isSecond_iff, isContinuation_iff] at second
  rw [isContinuation_iff] at third
  obtain ⟨n, value⟩ : ∃ n, a.toNat % 16 * 4096 + b.toNat % 64 * 64 + c.toNat % 64 = n := ⟨_, rfl⟩
  have valid : n.isValidChar := by
    simp only [Nat.isValidChar]
    omega
  simp only [String.utf8EncodeChar, payload, value, toNat_val_ofNat valid]
  rw [if_neg (by omega), if_neg (by omega), if_pos (by omega), eq_ofNat (a := a) (by omega),
    eq_ofNat (a := b) (by omega), eq_ofNat (a := c) (by omega)]

theorem utf8EncodeChar_four (low : 0xF0 ≤ a.toNat) (high : a.toNat < 0xF5) (second : isSecond a b = true)
    (third : isContinuation c = true) (fourth : isContinuation d = true) :
    String.utf8EncodeChar
      (Char.ofNat (a.toNat % 8 * 262144 + payload b * 4096 + payload c * 64 + payload d)) = [a, b, c, d] := by
  rw [isSecond_iff, isContinuation_iff] at second
  rw [isContinuation_iff] at third fourth
  obtain ⟨n, value⟩ :
      ∃ n, a.toNat % 8 * 262144 + b.toNat % 64 * 4096 + c.toNat % 64 * 64 + d.toNat % 64 = n := ⟨_, rfl⟩
  have valid : n.isValidChar := by
    simp only [Nat.isValidChar]
    omega
  simp only [String.utf8EncodeChar, payload, value, toNat_val_ofNat valid]
  rw [if_neg (by omega), if_neg (by omega), if_neg (by omega), eq_ofNat (a := a) (by omega),
    eq_ofNat (a := b) (by omega), eq_ofNat (a := c) (by omega), eq_ofNat (a := d) (by omega)]


theorem eq_encode_of_decodeFrom {bytes : List UInt8} {text : Text}
    (decoded : decodeFrom position done bytes = .ok text) :
    ∃ more, text = done.reverse ++ more ∧ bytes = encode more := by
  -- a character that is decoded takes the place of its bytes, and all other cases are failures
  have next {done text : Text} {c : Char} {front rest : List UInt8} (own : String.utf8EncodeChar c = front)
      (later : ∃ more, text = (c :: done).reverse ++ more ∧ rest = encode more) :
      ∃ more, text = done.reverse ++ more ∧ front ++ rest = encode more := by
    obtain ⟨more, rfl, rfl⟩ := later
    exact ⟨c :: more, by simp, by rw [encode, encode, List.flatMap_cons, own]⟩
  fun_induction decodeFrom position done bytes with
  | case1 position done =>
    cases decoded
    exact ⟨[], by simp, rfl⟩
  | case2 position done a rest small ih =>
    exact next (utf8EncodeChar_one (UInt8.lt_iff_toNat_lt.mp small)) (ih decoded)
  | case5 position done a _ low high b rest second ih =>
    simp only [UInt8.lt_iff_toNat_lt, UInt8.reduceToNat, Nat.not_lt] at low high
    exact next (utf8EncodeChar_two low high second) (ih decoded)
  | case10 position done a _ _ low high b second c rest third ih =>
    simp only [UInt8.lt_iff_toNat_lt, UInt8.reduceToNat, Nat.not_lt, Bool.not_eq_true', Bool.not_eq_false] at low high second
    exact next (utf8EncodeChar_three low high second third) (ih decoded)
  | case17 position done a _ _ _ low high b second c third d rest fourth ih =>
    simp only [UInt8.lt_iff_toNat_lt, UInt8.reduceToNat, Nat.not_lt, Bool.not_eq_true', Bool.not_eq_false] at low high second third
    exact next (utf8EncodeChar_four low high second third fourth) (ih decoded)
  | _ => cases decoded

/-- Only what is encoded is decoded, and to the same text. -/
theorem decode_eq_ok_iff {bytes : List UInt8} {text : Text} : decode bytes = .ok text ↔ bytes = encode text := by
  constructor
  · intro decoded
    obtain ⟨_, rfl, encoded⟩ := eq_encode_of_decodeFrom decoded
    exact encoded
  · rintro rfl
    exact decode_encode text

/-! ## Why bytes are not decoded -/

/-- The fault that ended the decoding, if one did. -/
def faultOf : Except Error Text → Option Fault
  | .ok _ => none
  | .error failure => some failure.fault

/-- The fault that the bytes are not decoded for, if there is one. -/
def fault? (bytes : List UInt8) : Option Fault := faultOf (decode bytes)

/-- The fault of the same bytes if more come after them. -/
def Fault.whenContinued : Fault → Fault
  | .truncated => .invalidContinuation
  | fault => fault

/-- What was decoded before makes no difference to the fault. -/
theorem faultOf_decodeFrom (position : Nat) (done : Text) (bytes : List UInt8) :
    faultOf (decodeFrom position done bytes) = fault? bytes := by
  have all (other : Nat) (before : Text) :
      faultOf (decodeFrom position done bytes) = faultOf (decodeFrom other before bytes) := by
    fun_induction decodeFrom position done bytes generalizing other before with
    | case1 => rfl
    | case2 | case5 | case10 | case17 =>
      rename_i later
      rw [decodeFrom.eq_def other]
      simp only [*, if_true, if_false, Bool.false_eq_true]
      exact later _ _
    | _ =>
      rw [decodeFrom.eq_def other]
      simp only [*, if_true, if_false, Bool.false_eq_true]
      rfl
  exact all 0 []

/-- A byte below 128 continues no character: the bytes in front of it are decoded alone, and so are those behind
it. -/
theorem fault?_append_ascii (front : List UInt8) (ascii : a < 0x80) (rest : List UInt8) :
    fault? (front ++ a :: rest) = ((fault? front).map Fault.whenContinued).or (fault? rest) := by
  have single : isContinuation a = false := by
    rw [UInt8.lt_iff_toNat_lt] at ascii
    rw [← Bool.not_eq_true, isContinuation_iff]
    exact fun continues => absurd ascii (Nat.not_lt.mpr continues.1)
  have no_second (first : UInt8) : isSecond first a = false := by
    simp only [isSecond, single, Bool.false_and]
  have all (position : Nat) (done : Text) : faultOf (decodeFrom position done (front ++ a :: rest)) =
      ((faultOf (decodeFrom position done front)).map Fault.whenContinued).or (fault? rest) := by
    fun_induction decodeFrom position done front with
    | case1 position done =>
      rw [List.nil_append, decodeFrom_one (UInt8.lt_iff_toNat_lt.mp ascii), faultOf_decodeFrom]
      rfl
    | case2 | case5 | case10 | case17 =>
      rw [List.cons_append, decodeFrom.eq_def]
      simp only [*, if_true, if_false, List.cons_append, Bool.false_eq_true]
    | _ =>
      rw [List.cons_append, decodeFrom.eq_def]
      simp only [*, if_true, if_false, List.cons_append, List.nil_append, Bool.not_false, Bool.false_eq_true]
      rfl
  exact all 0 []

end QueryTemplates.Utf8
