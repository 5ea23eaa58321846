import QueryTemplates.Proofs.Number.Numeral
import QueryTemplates.Proofs.Template.Standard

/-! # Scanning for standard placeholders

A scanner goes through each line once, from left to right, and never back: an opening mark and the first
closing brace after it enclose a placeholder, and an opening mark without a closing brace is literal. The
literal text met so far is pending, across the ends of lines, until a placeholder or the end of the body.
The standard pattern gives the same tokens, or the same error, for all bodies.
-/

namespace QueryTemplates

open Pattern Placeholder

namespace Text

/-- The text in front of the first occurrence of a mark, which is not empty, and the text behind it. -/
def cutAt? (mark : Text) : Text → Option (Text × Text)
  | [] => none
  | c :: rest =>
    match dropStart? mark (c :: rest) with
    | some behind => some ([], behind)
    | none => (cutAt? mark rest).map fun (before, behind) => (c :: before, behind)

theorem eq_of_cutAt? {mark text before behind : Text} (cut : cutAt? mark text = some (before, behind)) :
    text = before ++ mark ++ behind := by
  induction text generalizing before with
  | nil => cases cut
  | cons c rest ih =>
    rw [cutAt?] at cut
    split at cut
    · next found =>
      cases cut
      exact dropStart?_eq_some_iff.mp found
    · obtain ⟨⟨shorter, _⟩, later, same⟩ := Option.map_eq_some_iff.mp cut
      cases same
      rw [ih later]
      simp

theorem cutAt?_append {c : Char} {before : Text} (absent : c ∉ before) (behind : Text) :
    cutAt? [c] (before ++ c :: behind) = some (before, behind) := by
  induction before with
  | nil => simp [cutAt?, dropStart?]
  | cons d rest ih =>
    obtain ⟨other, absent⟩ := not_or.mp (mt List.mem_cons.mpr absent)
    simp [cutAt?, dropStart?, other, ih absent]

theorem cutAt?_eq_none {c : Char} {text : Text} (absent : c ∉ text) : cutAt? [c] text = none := by
  cases cut : cutAt? [c] text with
  | none => rfl
  | some found =>
    have whole := eq_of_cutAt? cut
    simp [whole] at absent

end Text

theorem unbroken_reference {content : Text} (unbroken : content.Unbroken) :
    (Token.reference content).Unbroken := by
  intro c member
  simp only [Token.reference, List.mem_append, List.mem_cons, List.not_mem_nil, or_false] at member
  rcases member with (rfl | rfl | member) | rfl
  · decide
  · decide
  · exact unbroken c member
  · decide

namespace Scanner

/-- The next placeholder of a line: the text in front of it, its content, and what follows it. -/
def next? (line : Text) : Option (Text × Text × Text) :=
  match Text.cutAt? ['$', '\x7b'] line with
  | none => none
  | some (plain, opened) => (Text.cutAt? ['\x7d'] opened).map fun (content, rest) => (plain, content, rest)

/-- The token of a placeholder: an index if the content is a run of ASCII digits, or else a name, which is
kept as it is. -/
def classify (query : Option Text) (content : Text) : Except Malformation Token :=
  if content ≠ [] ∧ content.all (fun c => '0' ≤ c ∧ c ≤ '9') then
    if Numeral.digitLimit < content.length then .error (.tooManyDigits query content.length)
    else
      match Index.ofNat? (Nat.ofDigits 10 (content.reverse.map Numeral.digitValue)) with
      | some index => .ok (.positional index (some (Token.reference content)))
      | none => .error (.zeroIndex query (Token.reference content))
  else .ok (.named content (some (Token.reference content)))

/-- The literal text that was pending, in front of tokens, unless it is empty. -/
def flush (pending : Text) (tokens : List Token) : List Token :=
  if pending = [] then tokens else .literal pending :: tokens

theorem eq_of_next? {line plain content rest : Text} (found : next? line = some (plain, content, rest)) :
    line = plain ++ Token.reference content ++ rest := by
  rw [next?] at found
  split at found
  · cases found
  · next opened begins =>
    obtain ⟨_, ends, same⟩ := Option.map_eq_some_iff.mp found
    cases same
    rw [Text.eq_of_cutAt? begins, Text.eq_of_cutAt? ends]
    simp [Token.reference]

theorem length_lt_of_next? {line plain content rest : Text}
    (found : next? line = some (plain, content, rest)) : rest.length < line.length := by
  rw [eq_of_next? found]
  simp only [Token.reference, List.length_append, List.length_cons]
  omega

/-- The tokens of what is left of a line and of the lines after it, with the literal text that is pending. -/
def scan (newLine : Text) (query : Option Text) (pending line : Text) (later : List Text) :
    Except Malformation (List Token) :=
  match _found : next? line with
  | some (plain, content, rest) => do
    let token ← classify query content
    let tokens ← scan newLine query [] rest later
    return flush (pending ++ plain) (token :: tokens)
  | none =>
    match later with
    | [] => return flush (pending ++ line) []
    | line' :: later => scan newLine query (pending ++ line ++ newLine) line' later
termination_by (later.length, line.length)
decreasing_by
  · exact Prod.Lex.right _ (length_lt_of_next? _found)
  · exact Prod.Lex.left _ _ (Nat.lt_succ_self _)

/-- The tokens of lines. -/
def tokens (newLine : Text) (query : Option Text) : List Text → Except Malformation (List Token)
  | [] => return []
  | line :: later => scan newLine query [] line later

/-! ## The next placeholder -/

theorem next?_reference {content : Text} (open_content : '\x7d' ∉ content) (rest : Text) :
    next? (Token.reference content ++ rest) = some ([], content, rest) := by
  have opened : Token.reference content ++ rest = '$' :: '\x7b' :: (content ++ '\x7d' :: rest) := by
    simp [Token.reference]
  simp [next?, opened, Text.cutAt?, Text.dropStart?, Text.cutAt?_append open_content]

/-- The search moves on where no placeholder stands. -/
theorem next?_cons {c : Char} {text : Text} (none_here : ¬ StartsWithReference (c :: text)) :
    next? (c :: text) = (next? text).map fun (plain, found) => (c :: plain, found) := by
  cases begins : Text.dropStart? ['$', '\x7b'] (c :: text) with
  | none =>
    rw [next?, next?, Text.cutAt?, begins]
    cases Text.cutAt? ['$', '\x7b'] text with
    | none => rfl
    | some cut => simp [Function.comp_def]
  | some opened =>
    -- the opening mark here is never closed, and so no later one is
    have whole := Text.dropStart?_eq_some_iff.mp begins
    have unclosed : '\x7d' ∉ opened := by
      intro closed
      obtain ⟨content, rest, split, open_content⟩ := List.eq_append_cons_of_mem closed
      refine none_here ⟨content, rest, open_content, ?_⟩
      rw [whole, split]
      simp [Token.reference]
    have nothing_here : next? (c :: text) = none := by
      simp [next?, Text.cutAt?, begins, Text.cutAt?_eq_none unclosed]
    have nothing_later : next? text = none := by
      cases found : next? text with
      | none => rfl
      | some cut =>
        obtain ⟨plain, content, rest⟩ := cut
        have closed : '\x7d' ∈ text := by
          rw [eq_of_next? found]
          simp [Token.reference]
        have behind : text = '\x7b' :: opened := (List.cons.inj whole).2
        rw [behind] at closed
        simp [unclosed] at closed
    rw [nothing_here, nothing_later]
    rfl

/-! ## The pieces of a line -/

/-- The pieces of a line at its placeholders. -/
def pieces (line : Text) : List Piece :=
  match _found : next? line with
  | none => [.text line]
  | some (plain, content, rest) =>
    .text plain :: .placeholder content (Token.reference content) :: pieces rest
termination_by line.length
decreasing_by exact length_lt_of_next? _found

theorem pieces_of_next? {line plain content rest : Text}
    (found : next? line = some (plain, content, rest)) :
    pieces line = .text plain :: .placeholder content (Token.reference content) :: pieces rest := by
  rw [pieces]
  split
  · next absent => rw [absent] at found; cases found
  · next again =>
    rw [again] at found
    cases found
    rfl

theorem pieces_of_next?_none {line : Text} (absent : next? line = none) : pieces line = [.text line] := by
  rw [pieces]
  split
  · rfl
  · next found => rw [absent] at found; cases found

/-- A character in front of a line belongs to its first piece, unless a placeholder stands there. -/
theorem pieces_cons {c : Char} {text plain : Text} {others : List Piece}
    (none_here : ¬ StartsWithReference (c :: text))
    (first : pieces text = .text plain :: others) : pieces (c :: text) = .text (c :: plain) :: others := by
  have onward := next?_cons none_here
  cases found : next? text with
  | none =>
    rw [pieces_of_next?_none found] at first
    cases first
    rw [found] at onward
    exact pieces_of_next?_none onward
  | some cut =>
    rw [pieces_of_next? found] at first
    cases first
    rw [found] at onward
    exact pieces_of_next? onward

variable {line : Text}

/-- The pieces from a place on, cut at the occurrences of the standard pattern from a cursor on. -/
def cutFrom (place cursor : Cursor line) : List Piece :=
  Piece.cut place ((standard.node.occurrencesFrom cursor).filter fun occurrence => !occurrence.isEmpty)

theorem cutFrom_reference {place cursor : Cursor line} {skipped content rest : Text}
    (ahead : place.after = skipped ++ cursor.after) (open_content : '\x7d' ∉ content)
    (referred : cursor.after = Token.reference content ++ rest) :
    ∃ last : Cursor line, last.after = rest ∧ last.room < cursor.room ∧ cutFrom place cursor =
      .text skipped :: .placeholder content (Token.reference content) :: cutFrom last last := by
  obtain ⟨occurrence, found, rfl, behind, fewer, written, recorded⟩ :=
    occurrencesFrom_reference open_content referred
  have different : occurrence.last.room ≠ occurrence.first.room := Nat.ne_of_lt fewer
  have passed : place.textTo occurrence.first = skipped := Cursor.textTo_eq ahead
  refine ⟨occurrence.last, behind, fewer, ?_⟩
  simp [cutFrom, found, Occurrence.isEmpty, different, Piece.cut, passed, recorded, written]

theorem cutFrom_plain {place cursor : Cursor line} (none_here : ¬ StartsWithReference cursor.after) :
    cutFrom place cursor =
      match cursor.next? with
      | none => [.text place.after]
      | some (_, later) => cutFrom place later := by
  have absent : standard.node.matchAt? cursor = none := by
    cases found : standard.node.matchAt? cursor with
    | none => rfl
    | some last => exact absurd (startsWithReference_of_matchAt? found) none_here
  rw [cutFrom, Node.occurrencesFrom_of_no_match absent]
  cases cursor.next? <;> rfl

theorem cutFrom_eq_pieces {place cursor : Cursor line} {skipped : Text}
    (ahead : place.after = skipped ++ cursor.after) :
    ∃ plain others, pieces cursor.after = .text plain :: others ∧
      cutFrom place cursor = .text (skipped ++ plain) :: others := by
  -- the place stays where it is while the cursor looks for a reference
  induction room : cursor.room using Nat.strong_induction_on generalizing place cursor skipped with
  | h room ih =>
    subst room
    by_cases here : StartsWithReference cursor.after
    · obtain ⟨content, rest, open_content, referred⟩ := here
      obtain ⟨last, rfl, fewer, cut⟩ := cutFrom_reference ahead open_content referred
      obtain ⟨plain, others, first, onward⟩ := ih _ fewer (List.nil_append _).symm rfl
      rw [referred, pieces_of_next? (next?_reference open_content last.after), cut, onward, first]
      exact ⟨[], _, rfl, by simp⟩
    · rw [cutFrom_plain here]
      cases rest : cursor.after with
      | nil =>
        rw [Cursor.next?_eq_none rest, pieces_of_next?_none rfl]
        exact ⟨[], [], rfl, by simp [ahead, rest]⟩
      | cons c text =>
        obtain ⟨later, next, rfl⟩ := Cursor.exists_next? rest
        have fewer : later.room < cursor.room := by
          have step := Cursor.next?_room next
          omega
        have further : place.after = (skipped ++ [c]) ++ later.after := by simp [ahead, rest]
        obtain ⟨plain, others, first, onward⟩ := ih _ fewer further rfl
        rw [rest] at here
        rw [next, pieces_cons here first]
        exact ⟨c :: plain, others, rfl, by simp [onward]⟩

/-- The standard pattern cuts a line where the scanner does. -/
theorem ofLine_standard (line : Text) : Piece.ofLine standard line = pieces line := by
  obtain ⟨plain, others, first, cut⟩ := cutFrom_eq_pieces (List.nil_append (Cursor.start line).after).symm
  exact cut.trans first.symm

/-! ## The tokens of placeholders -/

theorem classify_eq_reference (query : Option Text) (content : Text) :
    classify query content = Piece.reference query content (Token.reference content) := by
  have digits : Numeral.isDigits content = true ↔ content ≠ [] ∧ content.all (fun c => '0' ≤ c ∧ c ≤ '9') := by
    simp only [Numeral.isDigits_iff, Text.IsDigitRun, List.all_eq_true, decide_eq_true_eq]
  rw [Piece.reference, Numeral.value_eq_decimal]
  exact (if_congr digits rfl rfl).symm

/-! ## Pending literals -/

theorem coalesce_cons (token : Token) (rest : List Token) :
    coalesce (token :: rest) = token.joinTo (coalesce rest) := rfl

theorem coalesce_literals (first second : Text) (rest : List Token) :
    coalesce (.literal first :: .literal second :: rest) = coalesce (.literal (first ++ second) :: rest) := by
  simp only [coalesce_cons]
  cases first with
  | nil => rfl
  | cons c first =>
    cases second with
    | nil => simp only [Token.joinTo, List.append_nil]
    | cons d second =>
      cases coalesce rest with
      | nil => rfl
      | cons token others => cases token <;> simp [Token.joinTo]

theorem coalesce_reference (pending : Text) {token : Token} (referring : ∀ text, token ≠ .literal text)
    (rest : List Token) :
    coalesce (.literal pending :: token :: rest) = flush pending (token :: coalesce rest) := by
  simp only [coalesce_cons]
  cases token with
  | literal text => exact absurd rfl (referring text)
  | positional => cases pending <;> rfl
  | named => cases pending <;> rfl

theorem not_literal_of_reference {query : Option Text} {content written : Text} {token : Token}
    (read : Piece.reference query content written = .ok token) (text : Text) : token ≠ .literal text := by
  rintro rfl
  simp only [Piece.reference] at read
  split at read
  · split at read
    · cases read
    · split at read <;> cases read
  · cases read

/-- The tokens of pieces, with the literal text that is pending in front of them. -/
def read (query : Option Text) (pending : Text) (pieces : List Piece) : Except Malformation (List Token) :=
  (Piece.tokens query (.text pending :: pieces)).map coalesce

theorem read_nothing_pending (query : Option Text) (pieces : List Piece) :
    read query [] pieces = (Piece.tokens query pieces).map coalesce := by
  simp only [read, Piece.tokens, Piece.token]
  cases Piece.tokens query pieces <;> rfl

theorem read_nil (query : Option Text) (pending : Text) : read query pending [] = .ok (flush pending []) := by
  cases pending <;> rfl

theorem read_text (query : Option Text) (pending plain : Text) (rest : List Piece) :
    read query pending (.text plain :: rest) = read query (pending ++ plain) rest := by
  simp only [read, Piece.tokens, Piece.token]
  cases Piece.tokens query rest with
  | error malformation => rfl
  | ok others => simp only [Except.map, coalesce_literals]

theorem read_placeholder (query : Option Text) (pending content written : Text) (rest : List Piece) :
    read query pending (.placeholder content written :: rest) = do
      let token ← Piece.reference query content written
      let tokens ← read query [] rest
      return flush pending (token :: tokens) := by
  simp only [read, Piece.tokens, Piece.token]
  cases reads : Piece.reference query content written with
  | error malformation => rfl
  | ok token =>
    cases Piece.tokens query rest with
    | error malformation => rfl
    | ok others =>
      have merged := coalesce_reference pending (not_literal_of_reference reads) others
      simp only [Except.map, merged]
      rfl

/-! ## Bodies -/

theorem scan_eq_read (newLine : Text) (query : Option Text) (pending line : Text) (later : List Text) :
    scan newLine query pending line later =
      read query pending (List.intercalate [.text newLine] ((line :: later).map pieces)) := by
  fun_induction scan newLine query pending line later with
  | case1 pending line later plain content rest found ih =>
    have onward : List.intercalate [.text newLine] ((line :: later).map pieces) =
        .text plain :: .placeholder content (Token.reference content) ::
          List.intercalate [.text newLine] ((rest :: later).map pieces) := by
      simp only [List.map_cons, pieces_of_next? found]
      cases later <;> simp
    rw [onward, read_text, read_placeholder, ih, classify_eq_reference]
  | case2 pending line absent =>
    rw [List.map_singleton, pieces_of_next?_none absent, List.intercalate_singleton, read_text, read_nil]
    rfl
  | case3 pending line absent next later ih =>
    rw [List.map_cons, pieces_of_next?_none absent, List.map_cons, List.intercalate_cons_cons,
      ← List.map_cons]
    simp only [List.cons_append, List.nil_append, read_text, ih]

end Scanner

/-- The standard pattern is valid, and with it every body has the tokens, or the error, that the scanner finds
in the lines that the body consists of. -/
theorem tokenize_standard (newLine : Text) (query : Option Text) {body : Text} {lines : List Text}
    (consists : body.ConsistsOf lines) :
    (Placeholder.compile Placeholder.standardText).map (tokenize · newLine query body) =
      .ok (Scanner.tokens newLine query lines) := by
  obtain rfl := Text.consistsOf_iff.mp consists
  have cut : body.lines.map (Piece.ofLine standard) = body.lines.map Scanner.pieces :=
    List.map_congr_left fun line _ => Scanner.ofLine_standard line
  have scanned : tokenize standard newLine query body = Scanner.tokens newLine query body.lines := by
    rw [tokenize, Piece.ofBody, cut]
    obtain ⟨line, later, same⟩ := List.exists_cons_of_ne_nil (Text.lines_ne_nil body)
    rw [same, Scanner.tokens, Scanner.scan_eq_read, Scanner.read_nothing_pending]
  rw [compile_standardText, ← scanned]
  rfl

/-- An opening mark in a placeholder is part of its name, and a placeholder ends with its line. -/
theorem tokenize_standard_unclosed :
    let body : Text := "a$$\x7b$\x7b1\x7d0\x7d$\x7b12\x7d$\x7bb\nc\x7d".toList
    let lines : List Text := ["a$$\x7b$\x7b1\x7d0\x7d$\x7b12\x7d$\x7bb".toList, "c\x7d".toList]
    body.ConsistsOf lines ∧ Scanner.tokens ['|'] none lines =
      .ok [.literal "a$".toList, .named "$\x7b1".toList (some "$\x7b$\x7b1\x7d".toList), .literal "0\x7d".toList,
        .positional (.small 12 (by decide)) (some "$\x7b12\x7d".toList), .literal "$\x7bb|c\x7d".toList] := by
  intro body lines
  have consists : body.ConsistsOf lines := Text.consistsOf_iff.mpr (by decide)
  have scanned := tokenize_standard ['|'] none consists
  rw [compile_standardText] at scanned
  refine ⟨consists, (Except.ok.inj scanned).symm.trans ?_⟩
  decide +kernel

end QueryTemplates
