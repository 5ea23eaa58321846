import QueryTemplates.Proofs.Pattern.Succession
import QueryTemplates.Proofs.Results
import QueryTemplates.Proofs.Text.Lines
import QueryTemplates.Template.Piece

/-! # The source of the tokens of a body

No text is lost between a body and its tokens: the pieces of a line make up the line, reading a piece as
a token keeps its source, and so does merging literals. The tokens of a body therefore make up its lines
with the given line break between them, whatever the pattern is and however the breaks were written.
-/

namespace QueryTemplates

open Pattern (Cursor Occurrence Succession)

@[simp] theorem toSource_cons (token : Token) (rest : List Token) :
    toSource (token :: rest) = token.source ++ toSource rest := rfl

namespace Piece

/-! ## Pieces -/

theorem source_cut {line : Text} {place : Cursor line} {occurrences : List (Occurrence line)}
    (succession : Succession place occurrences) :
    (cut place occurrences).flatMap source = place.after := by
  induction succession with
  | nil place => simp [cut, source]
  | @cons place occurrence rest begins ends _ ih =>
    simp only [cut, List.flatMap_cons, source, ih]
    rw [Occurrence.text, Cursor.textTo_append_after ends, Cursor.textTo_append_after begins]

/-- The pieces of a line make up the line. -/
theorem source_ofLine (placeholder : Placeholder) (line : Text) :
    (ofLine placeholder line).flatMap source = line :=
  source_cut ((placeholder.node.occurrences_succession line).filter _)

private theorem flatMap_intercalate {α β : Type} (change : α → List β) (separator : List α)
    (parts : List (List α)) :
    (separator.intercalate parts).flatMap change =
      (separator.flatMap change).intercalate (parts.map (·.flatMap change)) := by
  induction parts with
  | nil => rfl
  | cons part parts ih =>
    cases parts with
    | nil => simp only [List.map_cons, List.map_nil, List.intercalate_singleton]
    | cons next parts =>
      simp only [List.map_cons, List.intercalate_cons_cons, List.flatMap_append] at ih ⊢
      rw [ih]

/-- The pieces of a body make up its lines with the given break between them. -/
theorem source_ofBody (placeholder : Placeholder) (newLine body : Text) :
    (ofBody placeholder newLine body).flatMap source = Text.joinWith newLine body.lines := by
  rw [ofBody, flatMap_intercalate, List.map_map]
  have same : (fun line => (ofLine placeholder line).flatMap source) = id :=
    funext (source_ofLine placeholder)
  simp only [Function.comp_def, same, List.map_id, List.flatMap_singleton, source, Text.joinWith]

/-! ## From pieces to tokens -/

theorem source_of_token {query : Option Text} {piece : Piece} {token : Token}
    (read : piece.token query = .ok token) : token.source = piece.source := by
  cases piece with
  | text plain =>
    cases read
    rfl
  | placeholder content written =>
    simp only [Piece.token, reference] at read
    split at read
    · split at read
      · cases read
      · split at read <;> cases read
        rfl
    · cases read
      rfl

/-- Pieces that have tokens are a first piece with its token and further ones with theirs. -/
theorem tokens_cons_eq_ok {query : Option Text} {piece : Piece} {rest : List Piece}
    {tokens : List Token} :
    Piece.tokens query (piece :: rest) = .ok tokens ↔ ∃ first others,
      piece.token query = .ok first ∧ Piece.tokens query rest = .ok others ∧
        tokens = first :: others := by
  constructor
  · intro read
    simp only [Piece.tokens] at read
    split at read
    · cases read
    · next first one =>
      split at read
      · cases read
      · next others more =>
        cases read
        exact ⟨first, others, one, more, rfl⟩
  · rintro ⟨first, others, one, more, rfl⟩
    simp only [Piece.tokens, one, more]

theorem source_of_tokens {query : Option Text} {pieces : List Piece} {tokens : List Token}
    (read : Piece.tokens query pieces = .ok tokens) : toSource tokens = pieces.flatMap source := by
  induction pieces generalizing tokens with
  | nil =>
    cases read
    rfl
  | cons piece rest ih =>
    obtain ⟨first, others, one, more, rfl⟩ := tokens_cons_eq_ok.mp read
    rw [toSource_cons, List.flatMap_cons, source_of_token one, ih more]

end Piece

/-! ## Merged literals -/

theorem toSource_joinTo (token : Token) (rest : List Token) :
    toSource (token.joinTo rest) = token.source ++ toSource rest := by
  fun_cases Token.joinTo token rest with
  | case1 => rfl
  | case2 text more rest =>
    simp only [toSource_cons, Token.source, List.append_assoc]
  | case3 => rfl

theorem toSource_coalesce (tokens : List Token) : toSource (coalesce tokens) = toSource tokens := by
  induction tokens with
  | nil => rfl
  | cons token rest ih =>
    change toSource (token.joinTo (coalesce rest)) = _
    rw [toSource_joinTo, ih, toSource_cons]

/-! ## Bodies -/

theorem tokenize_eq_ok {placeholder : Placeholder} {newLine body : Text} {query : Option Text}
    {tokens : List Token} :
    tokenize placeholder newLine query body = .ok tokens ↔ ∃ pieces,
      Piece.tokens query (Piece.ofBody placeholder newLine body) = .ok pieces ∧
        tokens = coalesce pieces := by
  rw [tokenize, map_eq_ok]
  simp only [eq_comm]

/-- The tokens of a body make up its lines with the given break between them. -/
theorem toSource_eq_joinWith_lines {placeholder : Placeholder} {newLine body : Text}
    {query : Option Text} {tokens : List Token}
    (tokenized : tokenize placeholder newLine query body = .ok tokens) :
    toSource tokens = Text.joinWith newLine body.lines := by
  obtain ⟨pieces, read, rfl⟩ := tokenize_eq_ok.mp tokenized
  rw [toSource_coalesce, Piece.source_of_tokens read, Piece.source_ofBody]

/-- Tokenizing loses no text: the tokens of a body make up the body, with each of its line breaks
replaced by the given one and every other character in its place. -/
theorem toSource_eq_replaceBreaks {placeholder : Placeholder} {newLine body : Text}
    {query : Option Text} {tokens : List Token}
    (tokenized : tokenize placeholder newLine query body = .ok tokens) :
    toSource tokens = Text.replaceBreaks newLine body := by
  rw [toSource_eq_joinWith_lines tokenized, Text.joinWith_lines]

instance : DecidableEq Placeholder := fun first second =>
  decidable_of_iff (first.node = second.node ∧ first.groups = second.groups) <| by
    cases first
    cases second
    simp only [Placeholder.mk.injEq]

/-- A word, or the empty text next to one. -/
def wordPattern : Placeholder where
  node := .seq (.anchor (.boundary false false))
    (.group 1 (.span ⟨false, [.category .word false], false, false⟩ 0 none .greedy))
  groups := 1
  groups_pos := Nat.one_pos
  not_matchesEmpty := by decide +kernel

/-- Matches of the empty text after a word, and a new line that looks like a placeholder. -/
theorem toSource_eq_replaceBreaks_wordPattern :
    Placeholder.compile "\\b(\\w*)".toList = .ok wordPattern ∧
      ∃ tokens, tokenize wordPattern "$\x7b1\x7d".toList none "ab 7\r\n$\x7bx\x7d\rc".toList = .ok tokens ∧
        toSource tokens = "ab 7$\x7b1\x7d$\x7bx\x7d$\x7b1\x7dc".toList := by
  have tokenized : tokenize wordPattern "$\x7b1\x7d".toList none "ab 7\r\n$\x7bx\x7d\rc".toList =
      .ok [.named "ab".toList (some "ab".toList), .literal [' '],
        .positional ⟨7, by decide +kernel⟩ (some ['7']), .literal "$\x7b1\x7d$\x7b".toList,
        .named ['x'] (some ['x']), .literal "\x7d$\x7b1\x7d".toList, .named ['c'] (some ['c'])] := by
    decide +kernel
  exact ⟨by decide +kernel, _, tokenized, (toSource_eq_replaceBreaks tokenized).trans (by decide)⟩

end QueryTemplates
