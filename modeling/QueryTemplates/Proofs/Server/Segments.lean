import Mathlib.Data.List.TakeWhile
import QueryTemplates.Proofs.Text.Parts
import QueryTemplates.Proofs.Text.Utf8
import QueryTemplates.Server.Route

/-! # Identifiers in paths

An identifier is written as one segment of a path, where each byte of it stands for itself or is escaped. The
path is decoded before it is compared with the routes, so that an identifier arrives as it is; but one that
has slashes in it then takes up more than one segment.
-/

namespace QueryTemplates

/-! ## Escapes -/

/-- A character that stands for itself in a segment of a path. -/
def isSegmentCharacter (c : Char) : Bool := c.isAlphanum || "-._~!$&'()*+,;=:@".toList.contains c

/-- The text stands for the bytes: for each byte there is a character that may stand for itself, or an
escape. -/
inductive Escapes : Text → List UInt8 → Prop
  | nil : Escapes [] []
  | plain {c : Char} {text : Text} {bytes : List UInt8} (own : isSegmentCharacter c = true)
      (rest : Escapes text bytes) : Escapes (c :: text) (Utf8.encode [c] ++ bytes)
  | escape {high low : Char} {first second : Nat} {text : Text} {bytes : List UInt8}
      (upper : Numeral.hexValue? high = some first) (lower : Numeral.hexValue? low = some second)
      (rest : Escapes text bytes) :
      Escapes ('%' :: high :: low :: text) (UInt8.ofNat (first * 16 + second) :: bytes)

/-- The text is the segment of a path that stands for an identifier. It is not one of the two dot segments,
which stand for other segments of the path. -/
structure IsSegmentOf (segment id : Text) : Prop where
  escapes : Escapes segment (Utf8.encode id)
  ne_dot : segment ≠ ['.']
  ne_dots : segment ≠ ['.', '.']

/-- The bytes as escapes. -/
def escapeAll (bytes : List UInt8) : Text := bytes.flatMap fun byte => '%' :: Numeral.hex 2 byte.toNat

theorem Numeral.hexValue?_hexDigit (n : Nat) : hexValue? (hexDigit n) = some (n % 16) := by
  have small : n % 16 < 16 := Nat.mod_lt n (by decide)
  rw [hexDigit]
  generalize n % 16 = digit at small
  revert digit
  decide

theorem escapes_escapeAll (bytes : List UInt8) : Escapes (escapeAll bytes) bytes := by
  induction bytes with
  | nil => exact .nil
  | cons byte bytes ih =>
    have bound := byte.toNat_lt
    have escape := Escapes.escape (Numeral.hexValue?_hexDigit (byte.toNat / 16))
      (Numeral.hexValue?_hexDigit byte.toNat) ih
    have value : byte.toNat / 16 % 16 * 16 + byte.toNat % 16 = byte.toNat := by omega
    rw [value, UInt8.ofNat_toNat] at escape
    exact escape

/-- Every identifier can be written as a segment. -/
theorem exists_segment (id : Text) : ∃ segment, IsSegmentOf segment id := by
  refine ⟨escapeAll (Utf8.encode id), escapes_escapeAll _, ?_, ?_⟩
  · cases Utf8.encode id <;> simp [escapeAll]
  · cases Utf8.encode id <;> simp [escapeAll]

theorem percentBytes_cons {c : Char} (plain : c ≠ '%') (rest : Text) :
    percentBytes (c :: rest) = Utf8.encode [c] ++ percentBytes rest := by
  simp [percentBytes, plain]

theorem percentBytes_append {text : Text} (plain : '%' ∉ text) (rest : Text) :
    percentBytes (text ++ rest) = Utf8.encode text ++ percentBytes rest := by
  induction text with
  | nil => rfl
  | cons c text ih =>
    obtain ⟨other, later⟩ := not_or.mp fun same => plain (List.mem_cons.mpr same)
    rw [List.cons_append, percentBytes_cons (Ne.symm other), ih later, ← List.append_assoc]
    simp [Utf8.encode]

theorem ne_of_isSegmentCharacter {c other : Char} (own : isSegmentCharacter c = true)
    (foreign : isSegmentCharacter other = false) : c ≠ other := by
  rintro rfl
  rw [own] at foreign
  cases foreign

namespace Escapes

variable {text : Text} {bytes : List UInt8}

/-- Escapes are undone wherever they stand. -/
theorem percentBytes_append (escapes : Escapes text bytes) (rest : Text) :
    percentBytes (text ++ rest) = bytes ++ percentBytes rest := by
  induction escapes with
  | nil => rfl
  | plain own _ ih =>
    have no_escape : _ ≠ '%' := ne_of_isSegmentCharacter own (by decide)
    rw [List.cons_append, percentBytes_cons no_escape, ih, List.append_assoc]
  | escape upper lower _ ih => simp [percentBytes, upper, lower, ih]

/-- A character that neither stands for itself nor is part of an escape is not there. -/
theorem notMem (escapes : Escapes text bytes) {other : Char} (foreign : isSegmentCharacter other = false)
    (no_digit : Numeral.hexValue? other = none) (no_sign : other ≠ '%') : other ∉ text := by
  induction escapes with
  | nil => exact List.not_mem_nil
  | plain own _ ih =>
    intro member
    rcases List.mem_cons.mp member with rfl | later
    · exact ne_of_isSegmentCharacter own foreign rfl
    · exact ih later
  | escape upper lower _ ih =>
    intro member
    rcases List.mem_cons.mp member with rfl | member
    · exact no_sign rfl
    rcases List.mem_cons.mp member with rfl | member
    · rw [no_digit] at upper
      cases upper
    rcases List.mem_cons.mp member with rfl | later
    · rw [no_digit] at lower
      cases lower
    · exact ih later

end Escapes

/-! ## Targets -/

/-- The text is a segment as it stands: nothing in it ends a segment or the path, and it is no dot segment. -/
def IsWhole (segment : Text) : Prop :=
  ('/' ∉ segment ∧ '?' ∉ segment ∧ '#' ∉ segment) ∧ segment ≠ ['.'] ∧ segment ≠ ['.', '.']

theorem IsSegmentOf.isWhole {segment id : Text} (stands : IsSegmentOf segment id) : IsWhole segment where
  left := ⟨stands.escapes.notMem (by decide) (by decide) (by decide),
    stands.escapes.notMem (by decide) (by decide) (by decide),
    stands.escapes.notMem (by decide) (by decide) (by decide)⟩
  right := ⟨stands.ne_dot, stands.ne_dots⟩

theorem followDots_of_no_dots {segments : List Text} (done : List Text)
    (no_dots : ∀ segment ∈ segments, segment ≠ ['.'] ∧ segment ≠ ['.', '.']) :
    followDots done segments = done.reverse ++ segments := by
  induction segments generalizing done with
  | nil => simp [followDots]
  | cons segment segments ih =>
    obtain ⟨ne_dot, ne_dots⟩ := no_dots segment (List.mem_cons_self ..)
    rw [followDots, if_neg ne_dot, if_neg ne_dots,
      ih _ fun other member => no_dots other (List.mem_cons_of_mem _ member)]
    simp

/-- A target that consists of segments is decoded as a whole. -/
theorem targetPath_joinWith {first : Text} {segments : List Text} (some_first : first ≠ [])
    (whole : ∀ segment ∈ first :: segments, IsWhole segment) :
    targetPath (Text.joinWith ['/'] ([] :: first :: segments)) =
      percentDecode (Text.joinWith ['/'] ([] :: first :: segments)) := by
  have start : Text.joinWith ['/'] ([] :: first :: segments) =
      '/' :: Text.joinWith ['/'] (first :: segments) :=
    Text.joinWith_cons ['/'] [] (List.cons_ne_nil first segments)
  have all_kept : (Text.joinWith ['/'] ([] :: first :: segments)).takeWhile
      (fun c => c != '?' && c != '#') = Text.joinWith ['/'] ([] :: first :: segments) := by
    rw [List.takeWhile_eq_self_iff]
    intro c member
    rcases Text.mem_joinWith member with slash | ⟨segment, among, own⟩
    · rw [List.mem_singleton.mp slash]
      decide
    · rcases List.mem_cons.mp among with rfl | among
      · exact absurd own List.not_mem_nil
      · obtain ⟨⟨-, no_query, no_fragment⟩, -⟩ := whole segment among
        have not_query : c ≠ '?' := fun same => no_query (same ▸ own)
        have not_fragment : c ≠ '#' := fun same => no_fragment (same ▸ own)
        simp [not_query, not_fragment]
  have one_slash : (Text.joinWith ['/'] ([] :: first :: segments)).dropWhile (· == '/') =
      Text.joinWith ['/'] (first :: segments) := by
    rw [start, List.dropWhile_cons_of_pos (by decide)]
    obtain ⟨c, rest, rfl⟩ := List.exists_cons_of_ne_nil some_first
    have plain : c ≠ '/' := fun same =>
      (whole _ (List.mem_cons_self ..)).1.1 (same ▸ List.mem_cons_self ..)
    cases segments with
    | nil => simp [Text.joinWith, plain]
    | cons second others => simp [Text.joinWith, plain]
  have parts : Text.splitAt '/' ('/' :: Text.joinWith ['/'] (first :: segments)) =
      [] :: first :: segments := by
    rw [Text.splitAt, Text.splitAt_joinWith_of_notMem (List.cons_ne_nil first segments)
      fun segment member => (whole segment member).1.1]
    rfl
  rw [targetPath, all_kept, one_slash, parts, followDots_of_no_dots]
  · rfl
  · intro segment member
    rcases List.mem_cons.mp member with rfl | member
    · exact ⟨(List.cons_ne_nil _ _).symm, (List.cons_ne_nil _ _).symm⟩
    · exact (whole segment member).2

/-! ## Routes -/

namespace Route

/-- The path of what is asked of a query. -/
def actionPath (id action : Text) : Text := Text.joinWith ['/'] (base ++ [id, action])

/-- What can be asked of a query. -/
def actions : List Text := ["tokens".toList, "render".toList]

/-- The path of a route. -/
def path : Route → Text
  | .queries => Text.joinWith ['/'] base
  | .tokens id => actionPath id "tokens".toList
  | .render id => actionPath id "render".toList

variable {id segment action : Text}

theorem actionPath_eq (id action : Text) :
    actionPath id action = Text.joinWith ['/'] base ++ '/' :: (id ++ '/' :: action) := by
  simp only [actionPath, Text.joinWith, base, List.cons_append, List.nil_append, List.append_assoc,
    List.intercalate_cons_cons, List.intercalate_singleton]

theorem isWhole_of_base : ∀ name ∈ base, IsWhole name := by
  simp only [IsWhole]
  decide

theorem plain_of_actions : ∀ name ∈ actions, IsWhole name ∧ '%' ∉ name ∧ name ≠ [] ∧
    name.getLast? ≠ some '\n' ∧ name.getLast? ≠ some '/' := by
  simp only [IsWhole]
  decide

theorem targetPath_actionPath (stands : IsSegmentOf segment id) (named : action ∈ actions) :
    targetPath (actionPath segment action) = actionPath id action := by
  obtain ⟨whole, no_escape, -⟩ := plain_of_actions action named
  have undivided : targetPath (actionPath segment action) = percentDecode (actionPath segment action) := by
    apply targetPath_joinWith
    · decide
    · intro name member
      have among : name ∈ base ++ [segment, action] := List.mem_cons_of_mem _ member
      rcases List.mem_append.mp among with constant | own
      · exact isWhole_of_base name constant
      · rcases List.mem_pair.mp own with rfl | rfl
        · exact stands.isWhole
        · exact whole
  have bytes : percentBytes (actionPath segment action) = Utf8.encode (actionPath id action) := by
    have no_escape_before : '%' ∉ Text.joinWith ['/'] base := by decide
    have no_escape_after : '%' ∉ '/' :: action := List.not_mem_cons_of_ne_of_not_mem (by decide) no_escape
    have after := percentBytes_append no_escape_after []
    rw [List.append_nil] at after
    rw [actionPath_eq, percentBytes_append no_escape_before, percentBytes_cons (by decide),
      stands.escapes.percentBytes_append, after, actionPath_eq]
    simp [Utf8.encode, percentBytes]
  rw [undivided, percentDecode, bytes, Utf8.decodeLossy_encode]

theorem splitAt_actionPath (plain : '/' ∉ action) :
    Text.splitAt '/' (actionPath id action) = base ++ (Text.splitAt '/' id ++ [action]) := by
  rw [actionPath, Text.splitAt_joinWith (by simp [base]), List.flatMap_append]
  simp only [List.flatMap_cons, List.flatMap_nil, Text.splitAt_of_notMem plain, List.append_nil]
  rfl

theorem afterBase?_append (base segments : List Text) :
    afterBase? base (base ++ segments) = some segments := by
  induction base with
  | nil => rfl
  | cons name base ih => rw [List.cons_append, afterBase?, if_pos rfl, ih]

theorem withoutFinalBreak_eq_self {path : Text} (no_break : path.getLast? ≠ some '\n') :
    withoutFinalBreak path = path := by
  rw [withoutFinalBreak]
  split
  · next reversed =>
    rw [List.getLast?_eq_head?_reverse, reversed] at no_break
    exact absurd rfl no_break
  · rfl

theorem withoutFinalSlashes?_eq_none {path : Text} (no_slash : path.getLast? ≠ some '/') :
    withoutFinalSlashes? path = none := by
  rw [withoutFinalSlashes?]
  split
  · next reversed =>
    rw [List.getLast?_eq_head?_reverse, reversed] at no_slash
    exact absurd rfl no_slash
  · rfl

theorem getLast?_actionPath (some_action : action ≠ []) (id : Text) :
    (actionPath id action).getLast? = action.getLast? := by
  have split : actionPath id action = (Text.joinWith ['/'] base ++ '/' :: (id ++ ['/'])) ++ action := by
    simp [actionPath_eq]
  rw [split, List.getLast?_append_of_ne_nil _ some_action]

/-- The path is compared with the routes by the parts of the identifier. -/
theorem ofPath?_actionPath (named : action ∈ actions) (id : Text) :
    ofPath? (actionPath id action) = ofSegments? (Text.splitAt '/' id ++ [action]) := by
  obtain ⟨⟨⟨no_slash, -⟩, -⟩, -, some_action, no_break, -⟩ := plain_of_actions action named
  rw [← getLast?_actionPath some_action id] at no_break
  rw [ofPath?, withoutFinalBreak_eq_self no_break, splitAt_actionPath no_slash, afterBase?_append]
  rfl

theorem not_isNear_actionPath (named : action ∈ actions) (id : Text) :
    isNear (actionPath id action) = false := by
  obtain ⟨-, -, some_action, -, no_slash⟩ := plain_of_actions action named
  rw [← getLast?_actionPath some_action id] at no_slash
  rw [isNear, withoutFinalSlashes?_eq_none no_slash]

/-- A segment that stands for an identifier leads to the query, unless there is a slash in the identifier. -/
theorem ofPath?_targetPath_tokens (stands : IsSegmentOf segment id) (some_id : id ≠ [])
    (plain : '/' ∉ id) :
    ofPath? (targetPath (path (.tokens segment))) = some (.tokens id) := by
  have named : "tokens".toList ∈ actions := List.mem_cons_self ..
  rw [path, targetPath_actionPath stands named, ofPath?_actionPath named, Text.splitAt_of_notMem plain]
  simp [ofSegments?, some_id]

theorem ofPath?_targetPath_render (stands : IsSegmentOf segment id) (some_id : id ≠ [])
    (plain : '/' ∉ id) :
    ofPath? (targetPath (path (.render segment))) = some (.render id) := by
  have named : "render".toList ∈ actions := List.mem_cons_of_mem _ (List.mem_cons_self ..)
  rw [path, targetPath_actionPath stands named, ofPath?_actionPath named, Text.splitAt_of_notMem plain]
  simp [ofSegments?, some_id]

/-- Otherwise it leads nowhere. -/
theorem astray_of_slash (stands : IsSegmentOf segment id) (named : action ∈ actions) (slash : '/' ∈ id) :
    ofPath? (targetPath (actionPath segment action)) = none ∧
      isNear (targetPath (actionPath segment action)) = false := by
  rw [targetPath_actionPath stands named]
  refine ⟨?_, not_isNear_actionPath named id⟩
  obtain ⟨first, second, others, parts⟩ := Text.splitAt_of_mem slash
  rw [ofPath?_actionPath named, parts]
  cases others with
  | nil => rfl
  | cons third others => rfl

end Route

end QueryTemplates
