import QueryTemplates.Proofs.Template.Canonical
import QueryTemplates.Proofs.Template.Scanner

/-! # Where a body mentions its arguments

A body mentions an argument wherever the pattern matches some text in one of its lines. Tokenizing turns each
mention into one reference, which stands where the mention does, and what lies between mentions is literal.
It fails exactly if a mention is an index that cannot be read, with the first such mention.
-/

namespace QueryTemplates

open Pattern (Cursor Occurrence Succession)

/-- A placeholder in a body: the text in front of it, the text in its group, which is empty if the group took
no part, and its own text. -/
structure Mention where
  before : Text
  content : Text
  written : Text
deriving DecidableEq

namespace Mention

/-- The mentions in a line that comes after other text: the matches of some text, from left to right. -/
def inLine (placeholder : Placeholder) (before line : Text) : List Mention :=
  ((placeholder.node.occurrences line).filter fun occurrence => !occurrence.isEmpty).map fun occurrence =>
    ⟨before ++ (Cursor.start line).textTo occurrence.first, occurrence.content.getD [], occurrence.text⟩

/-- The mentions in lines, each looked at alone, that come after other text. -/
def inLines (placeholder : Placeholder) (newLine : Text) : (before : Text) → List Text → List Mention
  | _, [] => []
  | before, line :: later =>
    inLine placeholder before line ++ inLines placeholder newLine (before ++ line ++ newLine) later

/-- The mentions in a body, whose line breaks are replaced. -/
def inBody (placeholder : Placeholder) (newLine body : Text) : List Mention :=
  inLines placeholder newLine [] body.lines

/-- A mention that is no reference: an index with more digits than are read, whatever they are, or an index
that is zero. -/
inductive Malformed (query : Option Text) (mention : Mention) : Malformation → Prop
  | tooManyDigits (digits : mention.content.IsDigitRun)
    (long : Numeral.digitLimit < mention.content.length) :
    Malformed query mention (.tooManyDigits query mention.content.length)
  | zeroIndex (digits : mention.content.IsDigitRun)
    (short : mention.content.length ≤ Numeral.digitLimit) (zero : mention.content.decimal = 0) :
    Malformed query mention (.zeroIndex query mention.written)

end Mention

/-- The token is the reference that a mention makes: a run of ASCII digits is an index, and anything else is
a name, just as it is. -/
inductive Token.RefersTo : Token → Mention → Prop
  | positional {index : Index} {mention : Mention} (digits : mention.content.IsDigitRun)
    (value : index.value = mention.content.decimal) :
    RefersTo (.positional index (some mention.written)) mention
  | named {mention : Mention} (other : ¬ mention.content.IsDigitRun) :
    RefersTo (.named mention.content (some mention.written)) mention

/-- The references among tokens that come after some text, each with the text in front of it. -/
def referencesIn : (before : Text) → List Token → List (Text × Token)
  | _, [] => []
  | before, token :: rest =>
    if token.isLiteral then referencesIn (before ++ token.source) rest
    else (before, token) :: referencesIn (before ++ token.source) rest

/-- The reference is the one that a mention makes, and stands where the mention does. -/
def StandsFor (reference : Text × Token) (mention : Mention) : Prop :=
  reference.1 = mention.before ∧ reference.2.RefersTo mention

variable {placeholder : Placeholder} {newLine body : Text} {query : Option Text} {tokens : List Token}
  {malformation : Malformation}

/-! ## One mention -/

theorem reference_eq_error_iff {mention : Mention} :
    Piece.reference query mention.content mention.written = .error malformation ↔
      mention.Malformed query malformation := by
  rw [Piece.reference, Numeral.value_eq_decimal]
  constructor
  · intro failed
    split at failed
    · next digits =>
      rw [Numeral.isDigits_iff] at digits
      split at failed
      · next long =>
        cases failed
        exact .tooManyDigits digits long
      · next short =>
        split at failed
        · cases failed
        · next none =>
          cases failed
          have few := Nat.le_of_not_lt short
          exact .zeroIndex digits few ((Numeral.ofNat?_decimal_eq_none_iff digits few).mp none)
    · cases failed
  · intro malformed
    cases malformed with
    | tooManyDigits digits long => rw [if_pos (Numeral.isDigits_iff.mpr digits), if_pos long]
    | zeroIndex digits short zero =>
      have none := (Numeral.ofNat?_decimal_eq_none_iff digits short).mpr zero
      rw [if_pos (Numeral.isDigits_iff.mpr digits), if_neg (Nat.not_lt.mpr short), none]

theorem refersTo_of_reference {mention : Mention} {token : Token}
    (read : Piece.reference query mention.content mention.written = .ok token) : token.RefersTo mention := by
  rw [Piece.reference, Numeral.value_eq_decimal, Index.ofNat?] at read
  split at read
  · next digits =>
    rw [Numeral.isDigits_iff] at digits
    split at read
    · cases read
    · split at read
      · next index found =>
        cases read
        split at found
        · cases found
          exact .positional digits rfl
        · cases found
      · cases read
  · next other =>
    cases read
    exact .named (mt Numeral.isDigits_iff.mpr other)

theorem Token.RefersTo.source_eq {token : Token} {mention : Mention} (refers : token.RefersTo mention) :
    token.isLiteral = false ∧ token.source = mention.written := by
  cases refers with
  | positional => exact ⟨rfl, rfl⟩
  | named => exact ⟨rfl, rfl⟩

/-! ## The mentions among pieces -/

namespace Piece

/-- The placeholders among pieces that come after some text. -/
def mentions : (before : Text) → List Piece → List Mention
  | _, [] => []
  | before, .text plain :: rest => mentions (before ++ plain) rest
  | before, .placeholder content written :: rest =>
    ⟨before, content, written⟩ :: mentions (before ++ written) rest

theorem mentions_append (before : Text) (first second : List Piece) :
    mentions before (first ++ second) =
      mentions before first ++ mentions (before ++ first.flatMap source) second := by
  induction first generalizing before with
  | nil => simp [mentions]
  | cons piece rest ih =>
    cases piece with
    | text plain => simp [mentions, ih, source]
    | placeholder content written => simp [mentions, ih, source]

theorem mentions_cut {line : Text} {place : Cursor line} {occurrences : List (Occurrence line)}
    (succession : Succession place occurrences) (before : Text) :
    mentions before (cut place occurrences) = occurrences.map fun occurrence =>
      ⟨before ++ place.textTo occurrence.first, occurrence.content.getD [], occurrence.text⟩ := by
  induction succession generalizing before with
  | nil => rfl
  | @cons place occurrence rest begins ends onward ih =>
    rw [cut, mentions, mentions, ih, List.map_cons]
    congr 1
    refine List.map_congr_left fun later member => ?_
    have passed := onward.begins_of_mem member
    simp only [Occurrence.text, List.append_assoc, Cursor.textTo_append_textTo passed ends,
      Cursor.textTo_append_textTo (Nat.le_trans passed ends) begins]

theorem mentions_ofLine (placeholder : Placeholder) (before line : Text) :
    mentions before (ofLine placeholder line) = Mention.inLine placeholder before line :=
  mentions_cut ((placeholder.node.occurrences_succession line).filter _) before

theorem mentions_ofLines (placeholder : Placeholder) (newLine before : Text) (lines : List Text) :
    mentions before (List.intercalate [.text newLine] (lines.map (ofLine placeholder))) =
      Mention.inLines placeholder newLine before lines := by
  induction lines generalizing before with
  | nil => rfl
  | cons line later ih =>
    cases later with
    | nil => simp [Mention.inLines, mentions_ofLine]
    | cons next later =>
      rw [List.map_cons, List.map_cons, List.intercalate_cons_cons, List.append_assoc, mentions_append,
        mentions_ofLine, source_ofLine, List.singleton_append, mentions, ← List.map_cons, ih]
      rfl

/-- The placeholders among the pieces of a body are its mentions. -/
theorem mentions_ofBody (placeholder : Placeholder) (newLine body : Text) :
    mentions [] (ofBody placeholder newLine body) = Mention.inBody placeholder newLine body :=
  mentions_ofLines placeholder newLine [] body.lines

/-! ## From mentions to references -/

theorem tokens_eq_mapM (query : Option Text) (pieces : List Piece) :
    Piece.tokens query pieces = pieces.mapM (token query) := by
  induction pieces with
  | nil => rfl
  | cons piece rest ih =>
    rw [Piece.tokens, List.mapM_cons, ih]
    cases piece.token query with
    | error malformation => rfl
    | ok first => cases rest.mapM (token query) <;> rfl

/-- Plain text can always be read, so that the first piece that cannot is the first such mention. -/
theorem firstFailure_iff (before : Text) {pieces : List Piece} :
    FirstFailure (fun piece cause => piece.token query = .error cause) pieces malformation ↔
      FirstFailure (Mention.Malformed query) (mentions before pieces) malformation := by
  induction pieces generalizing before with
  | nil => exact iff_of_false FirstFailure.not_nil FirstFailure.not_nil
  | cons piece rest ih =>
    cases piece with
    | text plain =>
      rw [FirstFailure.cons_iff, mentions, ← ih (before ++ plain)]
      constructor
      · rintro (failed | ⟨-, later⟩)
        · cases failed
        · exact later
      · exact fun later => .inr ⟨fun _ failed => (nomatch failed), later⟩
    | placeholder content written =>
      have own (cause : Malformation) : token query (placeholder content written) = .error cause ↔
          Mention.Malformed query ⟨before, content, written⟩ cause :=
        @reference_eq_error_iff query cause ⟨before, content, written⟩
      rw [FirstFailure.cons_iff, mentions, FirstFailure.cons_iff, ← ih (before ++ written)]
      simp only [own]

theorem standsFor_of_tokens {pieces : List Piece} (read : Piece.tokens query pieces = .ok tokens)
    (before : Text) : List.Forall₂ StandsFor (referencesIn before tokens) (mentions before pieces) := by
  induction pieces generalizing before tokens with
  | nil =>
    cases read
    exact .nil
  | cons piece rest ih =>
    obtain ⟨first, others, one, more, rfl⟩ := tokens_cons_eq_ok.mp read
    cases piece with
    | text plain =>
      cases one
      exact ih more (before ++ plain)
    | placeholder content written =>
      have refers : first.RefersTo ⟨before, content, written⟩ := refersTo_of_reference one
      obtain ⟨referring, own_source⟩ := refers.source_eq
      have onward := ih more (before ++ written)
      rw [referencesIn, referring, own_source]
      exact .cons ⟨rfl, refers⟩ onward

end Piece

theorem referencesIn_joinTo (before : Text) (token : Token) (rest : List Token) :
    referencesIn before (token.joinTo rest) = referencesIn before (token :: rest) := by
  fun_cases Token.joinTo token rest with
  | case1 => simp [referencesIn, Token.isLiteral, Token.source]
  | case2 text more rest => simp [referencesIn, Token.isLiteral, Token.source]
  | case3 => rfl

/-- Merging literals moves no reference. -/
theorem referencesIn_coalesce (before : Text) (tokens : List Token) :
    referencesIn before (coalesce tokens) = referencesIn before tokens := by
  induction tokens generalizing before with
  | nil => rfl
  | cons token rest ih => rw [Scanner.coalesce_cons, referencesIn_joinTo, referencesIn, referencesIn, ih]

/-! ## Bodies -/

/-- Tokenizing fails exactly if a mention is malformed, and then with the first one. -/
theorem tokenize_eq_error_iff : tokenize placeholder newLine query body = .error malformation ↔
    FirstFailure (Mention.Malformed query) (Mention.inBody placeholder newLine body) malformation := by
  rw [← Piece.mentions_ofBody, ← Piece.firstFailure_iff, ← mapM_eq_error_iff, ← Piece.tokens_eq_mapM]
  exact map_eq_error

/-- The tokens of a body are the canonical sequence of its mentions. No literal is empty or next to another
one, and all indexes are positive. The references are, one by one and in order, those that the mentions make,
each in its place, and no other text of the body is lost. -/
theorem references_of_tokenize (tokenized : tokenize placeholder newLine query body = .ok tokens) :
    Canonical tokens ∧ (∀ index ∈ tokens.filterMap Token.index?, 1 ≤ index.value) ∧
      List.Forall₂ StandsFor (referencesIn [] tokens) (Mention.inBody placeholder newLine body) ∧
      toSource tokens = Text.replaceBreaks newLine body := by
  refine ⟨canonical_of_tokenize tokenized, fun index _ => index.pos, ?_, ?_⟩
  · obtain ⟨pieces, read, rfl⟩ := tokenize_eq_ok.mp tokenized
    rw [referencesIn_coalesce, ← Piece.mentions_ofBody]
    exact Piece.standsFor_of_tokens read []
  · rw [toSource_eq_joinWith_lines tokenized, Text.joinWith_lines]

/-- A number, a percent sign, for which the group takes no part, or the empty text at the edge of a word. -/
def numberPattern : Placeholder where
  node := .either (.group 1 (.span ⟨false, [.range 0x30 0x39], false, false⟩ 1 none .greedy))
    (.either (.one ⟨false, [.code 0x25], false, false⟩) (.anchor (.boundary false false)))
  groups := 1
  groups_pos := Nat.one_pos
  not_matchesEmpty := by decide +kernel

/-- Mentions next to each other and in two lines, with matches of the empty text before and after them. -/
theorem references_of_tokenize_numberPattern :
    Placeholder.compile "([0-9]+)|%|\\b".toList = .ok numberPattern ∧ ∃ tokens,
      tokenize numberPattern ['|'] none "a%007\r\nb%".toList = .ok tokens ∧ Canonical tokens ∧
        List.Forall₂ StandsFor (referencesIn [] tokens)
          [⟨['a'], [], ['%']⟩, ⟨"a%".toList, "007".toList, "007".toList⟩, ⟨"a%007|b".toList, [], ['%']⟩] ∧
        toSource tokens = "a%007|b%".toList := by
  have tokenized : tokenize numberPattern ['|'] none "a%007\r\nb%".toList =
      .ok [.literal ['a'], .named [] (some ['%']), .positional ⟨7, by decide +kernel⟩ (some "007".toList),
        .literal "|b".toList, .named [] (some ['%'])] := by
    decide +kernel
  have mentioned : Mention.inBody numberPattern ['|'] "a%007\r\nb%".toList =
      [⟨['a'], [], ['%']⟩, ⟨"a%".toList, "007".toList, "007".toList⟩, ⟨"a%007|b".toList, [], ['%']⟩] := by
    decide +kernel
  obtain ⟨canonical, -, references, -⟩ := references_of_tokenize tokenized
  rw [mentioned] at references
  exact ⟨by decide +kernel, _, tokenized, canonical, references, by decide⟩

/-! ## Mentions that cannot be read -/

namespace Mention

/-- The mention is an index, but one with more digits than are read or one that is zero. -/
def IsUnreadable (mention : Mention) : Prop :=
  mention.content.IsDigitRun ∧ (Numeral.digitLimit < mention.content.length ∨ mention.content.decimal = 0)

instance (mention : Mention) : Decidable mention.IsUnreadable :=
  inferInstanceAs (Decidable (_ ∧ (_ ∨ _)))

/-- What is wrong with such a mention. The number of its digits counts before their value, and leading zeros
are digits. -/
def defect (query : Option Text) (mention : Mention) : Malformation :=
  if Numeral.digitLimit < mention.content.length then .tooManyDigits query mention.content.length
  else .zeroIndex query mention.written

theorem malformed_iff {mention : Mention} :
    mention.Malformed query malformation ↔ mention.IsUnreadable ∧ malformation = mention.defect query := by
  constructor
  · intro malformed
    cases malformed with
    | tooManyDigits digits long => exact ⟨⟨digits, .inl long⟩, (if_pos long).symm⟩
    | zeroIndex digits short zero => exact ⟨⟨digits, .inr zero⟩, (if_neg (Nat.not_lt.mpr short)).symm⟩
  · rintro ⟨⟨digits, unreadable⟩, rfl⟩
    rw [Mention.defect]
    split
    · next long => exact .tooManyDigits digits long
    · next short => exact .zeroIndex digits (Nat.not_lt.mp short) (unreadable.resolve_left short)

theorem exists_malformed_iff {mention : Mention} :
    (∃ malformation, mention.Malformed query malformation) ↔ mention.IsUnreadable := by
  simp only [malformed_iff, exists_and_left, exists_eq, and_true]

/-- The standard form of a reference is one mention. -/
theorem inBody_reference {content : Text} (open_content : '\x7d' ∉ content) (unbroken : content.Unbroken) :
    inBody Placeholder.standard newLine (Token.reference content) =
      [⟨[], content, Token.reference content⟩] := by
  have empty : Scanner.pieces [] = [.text []] := Scanner.pieces_of_next?_none rfl
  have pieces := Scanner.pieces_of_next? (Scanner.next?_reference open_content [])
  rw [List.append_nil, empty] at pieces
  rw [← Piece.mentions_ofBody, Piece.ofBody, Text.lines_of_unbroken (unbroken_reference unbroken),
    List.map_singleton, List.intercalate_singleton, Scanner.ofLine_standard, pieces]
  rfl

end Mention

/-- Tokenizing fails exactly if a mention cannot be read. The error tells what is wrong with the first such
mention, and if there is none, there are tokens. -/
theorem tokenize_fails_iff (placeholder : Placeholder) (newLine : Text) (query : Option Text) (body : Text) :
    let mentions := Mention.inBody placeholder newLine body
    let outcome := tokenize placeholder newLine query body
    ((∃ malformation, outcome = .error malformation) ↔ ∃ mention ∈ mentions, mention.IsUnreadable) ∧
      (∀ earlier mention later, mentions = earlier ++ mention :: later →
        (∀ other ∈ earlier, ¬ other.IsUnreadable) → mention.IsUnreadable →
        outcome = .error (mention.defect query)) ∧
      ((∀ mention ∈ mentions, ¬ mention.IsUnreadable) → ∃ tokens, outcome = .ok tokens) := by
  intro mentions outcome
  have fails : (∃ malformation, outcome = .error malformation) ↔ ∃ mention ∈ mentions, mention.IsUnreadable := by
    simp only [outcome, tokenize_eq_error_iff, FirstFailure.exists_iff, Mention.exists_malformed_iff, mentions]
  refine ⟨fails, fun earlier mention later split readable unreadable => ?_, fun readable => ?_⟩
  · refine tokenize_eq_error_iff.mpr ⟨earlier, mention, later, split, ?_, fun other among cause malformed => ?_⟩
    · exact Mention.malformed_iff.mpr ⟨unreadable, rfl⟩
    · exact readable other among (Mention.malformed_iff.mp malformed).1
  · cases result : outcome with
    | ok tokens => exact ⟨tokens, rfl⟩
    | error malformation =>
      obtain ⟨mention, among, unreadable⟩ := fails.mp ⟨malformation, result⟩
      exact absurd unreadable (readable mention among)

/-- Zeros that are too many are refused for their number, and fewer of them for their value, where nothing in
front of them is refused. -/
theorem tokenize_fails_iff_zeros :
    tokenize Placeholder.standard ['\n'] none (Token.reference (List.replicate 4301 '0')) =
        .error (.tooManyDigits none 4301) ∧
      Mention.inBody numberPattern ['\n'] "%b007\r00 0".toList =
        [⟨[], [], ['%']⟩, ⟨"%b".toList, "007".toList, "007".toList⟩] ++
          ⟨"%b007\n".toList, "00".toList, "00".toList⟩ :: [⟨"%b007\n00 ".toList, ['0'], ['0']⟩] ∧
      tokenize numberPattern ['\n'] (some ['q']) "%b007\r00 0".toList =
        .error (.zeroIndex (some ['q']) "00".toList) := by
  have zero {c : Char} (member : c ∈ List.replicate 4301 '0') : c = '0' := List.eq_of_mem_replicate member
  have too_long : Numeral.digitLimit < (List.replicate 4301 '0').length := by
    rw [List.length_replicate]
    decide
  have digits : Text.IsDigitRun (List.replicate 4301 '0') := by
    refine ⟨List.ne_nil_of_length_pos (Nat.zero_lt_of_lt too_long), fun c member => ?_⟩
    rw [zero member]
    decide
  have open_content : '\x7d' ∉ List.replicate 4301 '0' := fun member => absurd (zero member) (by decide)
  have unbroken : Text.Unbroken (List.replicate 4301 '0') := by
    intro c member
    rw [zero member]
    decide
  have mentioned : Mention.inBody numberPattern ['\n'] "%b007\r00 0".toList =
      [⟨[], [], ['%']⟩, ⟨"%b".toList, "007".toList, "007".toList⟩] ++
        ⟨"%b007\n".toList, "00".toList, "00".toList⟩ :: [⟨"%b007\n00 ".toList, ['0'], ['0']⟩] := by
    decide +kernel
  obtain ⟨-, long, -⟩ := tokenize_fails_iff Placeholder.standard ['\n'] none
    (Token.reference (List.replicate 4301 '0'))
  obtain ⟨-, short, -⟩ := tokenize_fails_iff numberPattern ['\n'] (some ['q']) "%b007\r00 0".toList
  refine ⟨?_, mentioned, ?_⟩
  · have whole := long [] _ [] (Mention.inBody_reference open_content unbroken)
      (fun _ absent => absurd absent List.not_mem_nil) ⟨digits, .inl too_long⟩
    rw [whole, Mention.defect, if_pos too_long, List.length_replicate]
  · exact short _ _ _ mentioned (by decide +kernel) (by decide +kernel)

end QueryTemplates
