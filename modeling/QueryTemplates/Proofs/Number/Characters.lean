import QueryTemplates.Number.Binary64
import QueryTemplates.Number.Decimal

/-! # The characters of numbers

Every text of a number consists of ASCII letters and digits, points and signs. So no quote, comma, space
or parenthesis occurs in one. Nor is one a word in capital letters: it has a digit, a point, a sign or a
small letter.
-/

namespace QueryTemplates

/-- The characters that texts of numbers consist of. -/
def isNumberCharacter (c : Char) : Bool := c.isAlphanum || c == '.' || c == '+' || c == '-'

/-- A text of such characters alone. -/
def OfNumberCharacters (text : Text) : Prop := ∀ c ∈ text, isNumberCharacter c = true

namespace OfNumberCharacters

variable {first second text : Text}

theorem nil : OfNumberCharacters [] := fun _ absent => (List.not_mem_nil absent).elim

theorem cons {c : Char} (own : isNumberCharacter c = true) (rest : OfNumberCharacters text) :
    OfNumberCharacters (c :: text) := by
  intro d member
  rcases List.mem_cons.mp member with rfl | member
  · exact own
  · exact rest d member

theorem append (left : OfNumberCharacters first) (right : OfNumberCharacters second) :
    OfNumberCharacters (first ++ second) :=
  fun c member => (List.mem_append.mp member).elim (left c) (right c)

theorem of_all (all : text.all isNumberCharacter = true) : OfNumberCharacters text :=
  List.all_eq_true.mp all

theorem of_digits (digits : ∀ c ∈ text, c.isDigit = true) : OfNumberCharacters text := by
  intro c member
  simp [isNumberCharacter, Char.isAlphanum, digits c member]

theorem replicate_zero (count : Nat) : OfNumberCharacters (List.replicate count '0') := by
  intro c member
  obtain ⟨-, rfl⟩ := List.mem_replicate.mp member
  decide

theorem take (count : Nat) (all : OfNumberCharacters text) : OfNumberCharacters (text.take count) :=
  fun c member => all c (List.mem_of_mem_take member)

theorem drop (count : Nat) (all : OfNumberCharacters text) : OfNumberCharacters (text.drop count) :=
  fun c member => all c (List.mem_of_mem_drop member)

/-- A character of another kind does not occur. -/
theorem notMem {c : Char} (all : OfNumberCharacters text) (other : isNumberCharacter c = false) :
    c ∉ text := by
  intro member
  rw [all c member] at other
  cases other

end OfNumberCharacters

open OfNumberCharacters

namespace Numeral

theorem isDigit_digit (n : Nat) : (digit n).isDigit = true := by
  have digits : ∀ d < 10, (Char.ofNat (0x30 + d)).isDigit = true := by decide
  exact digits (n % 10) (Nat.mod_lt n (by decide))

theorem isDigit_of_mem_ofNat {n : Nat} {c : Char} (member : c ∈ ofNat n) : c.isDigit = true := by
  fun_induction ofNat n with
  | case1 n =>
    obtain rfl := List.mem_singleton.mp member
    exact isDigit_digit n
  | case2 n _ ih =>
    rcases List.mem_append.mp member with member | member
    · exact ih member
    · obtain rfl := List.mem_singleton.mp member
      exact isDigit_digit n

theorem ofNat_characters (n : Nat) : OfNumberCharacters (ofNat n) :=
  of_digits fun _ => isDigit_of_mem_ofNat

theorem ofInt?_characters {i : Int} {numeral : Text} (written : ofInt? i = some numeral) :
    OfNumberCharacters numeral := by
  simp only [ofInt?] at written
  split at written
  · obtain rfl := Option.some.inj written
    split
    · exact cons (by decide) (ofNat_characters _)
    · exact ofNat_characters _
  · cases written

theorem padded_characters (width n : Nat) : OfNumberCharacters (padded width n) :=
  (replicate_zero _).append (ofNat_characters n)

end Numeral

namespace Decimal

theorem signText_characters (negative : Bool) : OfNumberCharacters (signText negative) := by
  cases negative with
  | true => exact cons (by decide) nil
  | false => exact nil

theorem pointed_characters {digits : Text} (all : OfNumberCharacters digits) (whole : Int) :
    OfNumberCharacters (pointed digits whole) := by
  rw [pointed]
  split
  · exact (append (of_all (by decide)) (replicate_zero _)).append all
  · exact (all.take _).append (cons (by decide) (all.drop _))

theorem leadingPointed_characters {digits : Text} (all : OfNumberCharacters digits) :
    OfNumberCharacters (leadingPointed digits) := by
  fun_cases leadingPointed digits with
  | case1 => exact nil
  | case2 digit => exact all
  | case3 digit digits =>
    exact cons (all digit (List.mem_cons_self ..)) (cons (by decide) (all.drop 1))

theorem signedExponent_characters (exponent : Int) : OfNumberCharacters (signedExponent exponent) := by
  refine cons ?_ (Numeral.ofNat_characters _)
  split
  · decide
  · decide

theorem finiteText_characters (value : Scientific) : OfNumberCharacters (finiteText value) := by
  have digits := Numeral.ofNat_characters value.coefficient
  refine (signText_characters _).append ?_
  split
  · exact digits
  · split
    · exact pointed_characters digits _
    · exact (leadingPointed_characters digits).append (cons (by decide) (signedExponent_characters _))

theorem text_characters (value : Decimal) : OfNumberCharacters value.text := by
  cases value with
  | finite value => exact finiteText_characters value
  | infinite negative =>
    exact (signText_characters negative).append (of_all (by decide))
  | nan negative signaling payload =>
    refine ((signText_characters negative).append ?_).append ?_
    · cases signaling with
      | true => exact of_all (by decide)
      | false => exact of_all (by decide)
    · split
      · exact nil
      · exact Numeral.ofNat_characters payload

end Decimal

namespace Binary64

theorem plainText_characters {digits : Text} (all : OfNumberCharacters digits) (power : Int) :
    OfNumberCharacters (plainText digits power) := by
  simp only [plainText]
  split
  · exact (all.append (replicate_zero _)).append (of_all (by decide))
  · split
    · exact (all.take _).append (cons (by decide) (all.drop _))
    · exact (append (of_all (by decide)) (replicate_zero _)).append all

theorem exponentText_characters (layout : Layout) {digits : Text} (all : OfNumberCharacters digits)
    (exponent : Int) : OfNumberCharacters (exponentText layout digits exponent) := by
  have sign : OfNumberCharacters ('e' :: (if exponent < 0 then '-' else '+') ::
      Numeral.padded layout.exponentDigits exponent.natAbs) := by
    refine cons (by decide) (cons ?_ (Numeral.padded_characters _ _))
    split
    · decide
    · decide
  match digits with
  | [] => exact sign
  | [first] => exact all.append sign
  | first :: second :: rest =>
    refine append (cons (all first (List.mem_cons_self ..)) (cons (by decide) ?_)) sign
    exact all.drop 1

theorem magnitudeText_characters (mantissa : Nat) (exponent : Int) :
    OfNumberCharacters (magnitudeText mantissa exponent) := by
  rw [magnitudeText]
  split
  · exact of_all (by decide)
  · have digits : OfNumberCharacters (shortest mantissa exponent).1 := Numeral.ofNat_characters _
    simp only
    split
    · exact plainText_characters digits _
    · exact exponentText_characters layout digits _

theorem text_characters (value : Binary64) : OfNumberCharacters value.text := by
  cases value with
  | nan => exact of_all (by decide)
  | infinite negative =>
    cases negative with
    | true => exact of_all (by decide)
    | false => exact of_all (by decide)
  | finite negative mantissa exponent =>
    refine append ?_ (magnitudeText_characters mantissa exponent)
    cases negative with
    | true => exact cons (by decide) nil
    | false => exact nil

end Binary64

/-! ## Words in capital letters -/

/-- Some character of the text is no capital letter. -/
def HasOther (text : Text) : Prop := ∃ c ∈ text, c.isUpper = false

instance (text : Text) : Decidable (HasOther text) :=
  decidable_of_iff (text.any (!·.isUpper) = true) (by simp [HasOther])

namespace HasOther

variable {first second text : Text}

theorem append_left (other : HasOther first) (second : Text) : HasOther (first ++ second) := by
  obtain ⟨c, member, plain⟩ := other
  exact ⟨c, List.mem_append_left second member, plain⟩

theorem append_right (first : Text) (other : HasOther second) : HasOther (first ++ second) := by
  obtain ⟨c, member, plain⟩ := other
  exact ⟨c, List.mem_append_right first member, plain⟩

theorem cons (c : Char) (other : HasOther text) : HasOther (c :: text) := append_right [c] other

theorem of_head {c : Char} (plain : c.isUpper = false) (rest : Text) : HasOther (c :: rest) :=
  ⟨c, List.mem_cons_self .., plain⟩

end HasOther

open HasOther

namespace Numeral

theorem isUpper_of_isDigit {c : Char} (digit : c.isDigit = true) : c.isUpper = false := by
  have below : c.val ≤ '9'.val := of_decide_eq_true (Bool.and_eq_true_iff.mp digit).2
  refine decide_eq_false fun upper => ?_
  exact absurd (UInt32.le_trans upper.1 below) (by decide)

theorem ofNat_ne_nil (n : Nat) : ofNat n ≠ [] := by
  rw [ofNat]
  split <;> simp

theorem ofNat_hasOther (n : Nat) : HasOther (ofNat n) := by
  obtain ⟨c, member⟩ := List.exists_mem_of_ne_nil _ (ofNat_ne_nil n)
  exact ⟨c, member, isUpper_of_isDigit (isDigit_of_mem_ofNat member)⟩

theorem ofInt?_hasOther {i : Int} {numeral : Text} (written : ofInt? i = some numeral) :
    HasOther numeral := by
  simp only [ofInt?] at written
  split at written
  · obtain rfl := Option.some.inj written
    split
    · exact (ofNat_hasOther _).cons '-'
    · exact ofNat_hasOther _
  · cases written

end Numeral

namespace Decimal

theorem finiteText_hasOther (value : Scientific) : HasOther (finiteText value) := by
  apply append_right
  split
  · exact Numeral.ofNat_hasOther _
  · split
    · rw [pointed]
      split
      · exact append_left (append_left (by decide) _) _
      · exact append_right _ (of_head (by decide) _)
    · refine append_right _ (HasOther.cons 'E' (of_head ?_ _))
      split <;> decide

theorem text_hasOther (value : Decimal) : HasOther value.text := by
  cases value with
  | finite value => exact finiteText_hasOther value
  | infinite negative => exact append_right _ (by decide)
  | nan negative signaling payload =>
    refine append_left (append_right _ ?_) _
    cases signaling <;> decide

end Decimal

namespace Binary64

theorem plainText_hasOther (digits : Text) (power : Int) : HasOther (plainText digits power) := by
  simp only [plainText]
  split
  · exact append_right _ (by decide)
  · split
    · exact append_right _ (of_head (by decide) _)
    · exact append_left (append_left (by decide) _) _

theorem magnitudeText_hasOther (mantissa : Nat) (exponent : Int) :
    HasOther (magnitudeText mantissa exponent) := by
  rw [magnitudeText]
  split
  · decide
  · simp only
    split
    · exact plainText_hasOther _ _
    · exact append_right _ (of_head (by decide) _)

theorem text_hasOther (value : Binary64) : HasOther value.text := by
  cases value with
  | nan => decide
  | infinite negative => cases negative <;> decide
  | finite negative mantissa exponent => exact append_right _ (magnitudeText_hasOther _ _)

end Binary64

end QueryTemplates
