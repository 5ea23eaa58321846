import QueryTemplates.Proofs.Template.Canonical
import QueryTemplates.Proofs.Template.Scanner

/-! # Tokens that are printed and read again

Tokens without a written form are printed in their standard form. Reading the printed text with the standard
pattern gives them back, if they are canonical and nothing but their references looks like one.
-/

namespace QueryTemplates

open Placeholder

/-- A token without a written form that can be told from its standard form: a literal does not open a
placeholder, an index is as long as indexes can be, and a name stays in its braces and in its line, and is no
index. -/
inductive Token.IsPrintable : Token → Prop
  | literal {text : Text} (no_return : '\r' ∉ text) (unopened : ¬ ['$', '\x7b'] <:+: text) :
    IsPrintable (.literal text)
  | positional (index : Index) : IsPrintable (.positional index none)
  | named {name : Text} (open_name : '\x7d' ∉ name) (unbroken : name.Unbroken)
    (other : ¬ name.IsDigitRun) : IsPrintable (.named name none)

/-- Tokens that can be read back. -/
structure Printable (tokens : List Token) : Prop extends Canonical tokens where
  each : ∀ token ∈ tokens, token.IsPrintable

/-- The token with its source as its written form. -/
def Token.inscribed : Token → Token
  | .literal text => .literal text
  | .positional index written => .positional index (some (Token.positional index written).source)
  | .named name written => .named name (some (Token.named name written).source)

/-! ## Printable tokens -/

theorem Token.IsPrintable.bare_inscribed {token : Token} (printable : token.IsPrintable) :
    token.inscribed.bare = token := by
  cases printable with
  | literal => rfl
  | positional => rfl
  | named => rfl

/-- The standard form of a printable reference encloses text in which it does not end, and which refers to
the same argument. -/
theorem Token.IsPrintable.exists_content {token : Token} (printable : token.IsPrintable)
    (referring : token.isLiteral = false) (query : Option Text) : ∃ content : Text,
      token.source = Token.reference content ∧ '\x7d' ∉ content ∧ content.Unbroken ∧
        Piece.reference query content (Token.reference content) = .ok token.inscribed := by
  cases printable with
  | literal => cases referring
  | positional index =>
    have digits : index.numeral.IsDigitRun := Numeral.isDigitRun_ofNat index.value
    have readable : ¬ Numeral.digitLimit < index.numeral.length := Nat.not_lt.mpr index.short
    have found : Index.ofNat? (Numeral.value index.numeral) = some index := by
      rw [Index.numeral, Numeral.value_ofNat, Index.ofNat?, dif_pos index.valid]
    refine ⟨index.numeral, rfl, ?_, ?_, ?_⟩
    · intro member
      exact absurd (digits.2 _ member) (by decide)
    · intro c member
      have digit := digits.2 c member
      constructor
      · rintro rfl
        exact absurd digit (by decide)
      · rintro rfl
        exact absurd digit (by decide)
    · rw [Piece.reference, if_pos (Numeral.isDigits_iff.mpr digits), if_neg readable, found]
      rfl
  | @named name open_name unbroken other =>
    refine ⟨name, rfl, open_name, unbroken, ?_⟩
    rw [Piece.reference, if_neg (mt Numeral.isDigits_iff.mp other)]
    rfl

/-! ## Reading a body from its start -/

namespace Scanner

/-- The tokens of a body, with the literal text that is pending in front of them. -/
def readBody (query : Option Text) (pending body : Text) : Except Malformation (List Token) :=
  read query pending (List.intercalate [.text ['\n']] (body.lines.map pieces))

theorem tokenize_eq_readBody (query : Option Text) (body : Text) :
    tokenize standard ['\n'] query body = readBody query [] body := by
  have cut : Piece.ofLine standard = pieces := funext ofLine_standard
  rw [tokenize, Piece.ofBody, cut, readBody, read_nothing_pending]

theorem exists_pieces (line : Text) : ∃ plain others, pieces line = .text plain :: others := by
  cases found : next? line with
  | none => exact ⟨_, _, pieces_of_next?_none found⟩
  | some cut => exact ⟨_, _, pieces_of_next? found⟩

variable {query : Option Text} {pending body : Text}

theorem readBody_nil : readBody query pending [] = .ok (flush pending []) := by
  have empty : pieces [] = [.text []] := pieces_of_next?_none rfl
  simp only [readBody, Text.lines, List.map_cons, List.map_nil, empty, List.intercalate_singleton]
  rw [read_text, List.append_nil, read_nil]

theorem readBody_lineFeed : readBody query pending ('\n' :: body) = readBody query (pending ++ ['\n']) body := by
  have split : Text.lines ('\n' :: body) = [] :: body.lines := rfl
  have empty : pieces [] = [.text []] := pieces_of_next?_none rfl
  obtain ⟨line, later, same⟩ := List.exists_cons_of_ne_nil (Text.lines_ne_nil body)
  rw [readBody, readBody, split, same, List.map_cons, List.map_cons, List.intercalate_cons_cons, empty]
  simp only [List.cons_append, List.nil_append, read_text, List.append_nil]

/-- A character that neither breaks a line nor opens a placeholder is literal. -/
theorem readBody_plain {c : Char} (plain : c ≠ '\r' ∧ c ≠ '\n') (unopened : ¬ ['$', '\x7b'] <+: c :: body) :
    readBody query pending (c :: body) = readBody query (pending ++ [c]) body := by
  obtain ⟨line, later, same⟩ := List.exists_cons_of_ne_nil (Text.lines_ne_nil body)
  have split : Text.lines (c :: body) = (c :: line) :: later :=
    Text.lines_append_of_unbroken (List.forall_mem_singleton.mpr plain) same
  have none_here : ¬ StartsWithReference (c :: line) := by
    rintro ⟨content, rest, -, referred⟩
    have opened : ['$', '\x7b'] <+: c :: line := ⟨content ++ '\x7d' :: rest, by simp [referred, Token.reference]⟩
    exact unopened (opened.trans ((List.prefix_cons_inj c).mpr (Text.prefix_of_lines_eq_cons same)))
  obtain ⟨text, others, first⟩ := exists_pieces line
  rw [readBody, readBody, split, same, List.map_cons, List.map_cons, pieces_cons none_here first, first,
    List.intercalate_cons_cons_left, List.intercalate_cons_cons_left, read_text, read_text, List.append_assoc,
    List.singleton_append]

/-- A reference is read as it stands, after what is pending. -/
theorem readBody_reference {content : Text} (open_content : '\x7d' ∉ content) (unbroken : content.Unbroken) :
    readBody query pending (Token.reference content ++ body) = do
      let token ← Piece.reference query content (Token.reference content)
      let tokens ← readBody query [] body
      return flush pending (token :: tokens) := by
  obtain ⟨line, later, same⟩ := List.exists_cons_of_ne_nil (Text.lines_ne_nil body)
  have split : Text.lines (Token.reference content ++ body) = (Token.reference content ++ line) :: later :=
    Text.lines_append_of_unbroken (unbroken_reference unbroken) same
  rw [readBody, readBody, split, same, List.map_cons, pieces_of_next? (next?_reference open_content line),
    List.intercalate_cons_cons_left, List.intercalate_cons_cons_left, read_text, List.append_nil,
    read_placeholder, List.map_cons]

/-- Literal text goes to what is pending, unless it opens a placeholder, alone or with what follows it. -/
theorem readBody_literal {text : Text} (no_return : '\r' ∉ text) (unopened : ¬ ['$', '\x7b'] <:+: text)
    (follows : body.head? ≠ some '\x7b') :
    readBody query pending (text ++ body) = readBody query (pending ++ text) body := by
  induction text generalizing pending with
  | nil => rw [List.nil_append, List.append_nil]
  | cons c text ih =>
    obtain ⟨other, no_return⟩ := not_or.mp (mt List.mem_cons.mpr no_return)
    have later := @ih (pending ++ [c]) no_return fun inside => unopened (List.infix_cons inside)
    rw [List.append_assoc, List.singleton_append] at later
    by_cases breaks : c = '\n'
    · subst breaks
      rw [List.cons_append, readBody_lineFeed, later]
    · refine (readBody_plain ⟨Ne.symm other, breaks⟩ ?_).trans later
      -- the dollar sign may be the last character of the text, and the brace what follows it
      intro opened
      obtain ⟨rfl, brace⟩ := List.cons_prefix_cons.mp opened
      cases text with
      | nil =>
        obtain ⟨rest, rfl⟩ := brace
        exact follows rfl
      | cons d text =>
        obtain ⟨rfl, -⟩ := List.cons_prefix_cons.mp brace
        exact unopened (List.prefix_append ['$', '\x7b'] text).isInfix

/-! ## Reading printed tokens -/

theorem head?_toSource {tokens : List Token} (each : ∀ token ∈ tokens, token.IsPrintable)
    (referring : ∀ token ∈ tokens.head?, token.isLiteral = false) : (toSource tokens).head? ≠ some '\x7b' := by
  cases tokens with
  | nil => exact fun absent => nomatch absent
  | cons token rest =>
    have printable := each token (List.mem_cons_self ..)
    obtain ⟨content, printed, -⟩ := printable.exists_content (referring token rfl) none
    rw [toSource_cons, printed]
    exact fun same => absurd (Option.some.inj same) (by decide)

/-- Printed tokens are read back in order. What is pending comes first, where the first token is no literal. -/
theorem readBody_toSource {tokens : List Token} (printable : Printable tokens)
    (seam : pending = [] ∨ ∀ token ∈ tokens.head?, token.isLiteral = false) :
    readBody query pending (toSource tokens) = .ok (flush pending (tokens.map Token.inscribed)) := by
  induction tokens generalizing pending with
  | nil => exact readBody_nil
  | cons token rest ih =>
    obtain ⟨own, each⟩ := List.forall_mem_cons.mp printable.each
    have printable_rest : Printable rest := ⟨printable.tail, each⟩
    cases literal : token.isLiteral with
    | false =>
      obtain ⟨content, printed, open_content, unbroken, read⟩ := own.exists_content literal query
      rw [toSource_cons, printed, readBody_reference open_content unbroken, read,
        ih printable_rest (.inl rfl)]
      rfl
    | true =>
      obtain rfl : pending = [] := by
        rcases seam with nothing | referring
        · exact nothing
        · rw [referring token rfl] at literal
          cases literal
      cases own with
      | positional => cases literal
      | named => cases literal
      | @literal text no_return unopened =>
        have referring : ∀ next ∈ rest.head?, next.isLiteral = false := by
          intro next first
          have apart := (List.isChain_cons.mp printable.separated).1 next first
          exact Bool.eq_false_iff.mpr fun second => apart ⟨rfl, second⟩
        have some_text : text ≠ [] := by
          rintro rfl
          exact printable.no_empty (List.mem_cons_self ..)
        rw [toSource_cons, Token.source, readBody_literal no_return unopened (head?_toSource each referring),
          List.nil_append, ih printable_rest (.inr referring), flush, if_neg some_text]
        rfl

end Scanner

/-- Canonical tokens survive printing: read with the standard pattern, and with lines that end as they are
printed, the source of printable tokens gives these tokens. -/
theorem tokenize_toSource {tokens : List Token} (printable : Printable tokens) (query : Option Text) :
    ∃ placeholder again, compile standardText = .ok placeholder ∧
      tokenize placeholder ['\n'] query (toSource tokens) = .ok again ∧ again.map Token.bare = tokens := by
  refine ⟨standard, tokens.map Token.inscribed, compile_standardText, ?_, ?_⟩
  · rw [Scanner.tokenize_eq_readBody]
    exact Scanner.readBody_toSource printable (.inl rfl)
  · rw [List.map_map]
    exact (List.map_congr_left fun token member => (printable.each token member).bare_inscribed).trans
      (List.map_id _)

/-- A literal that ends in a dollar sign, an index and an empty name next to each other, a literal of two
lines that begins with a closing brace, and a name that opens a placeholder. -/
def delicateTokens : List Token :=
  [.literal "a$".toList, .positional (.small 12 (by decide)) none, .named [] none, .literal "\x7d\x7b\n$".toList,
    .named "x $\x7b1".toList none]

theorem tokenize_toSource_delicate :
    Printable delicateTokens ∧
      toSource delicateTokens = "a$$\x7b12\x7d$\x7b\x7d\x7d\x7b\n$$\x7bx $\x7b1\x7d".toList ∧
      ∃ placeholder again, compile standardText = .ok placeholder ∧
        tokenize placeholder ['\n'] none (toSource delicateTokens) = .ok again ∧
        again.map Token.bare = delicateTokens := by
  have each : ∀ token ∈ delicateTokens, token.IsPrintable := by
    simp only [delicateTokens, List.forall_mem_cons]
    exact ⟨.literal (by decide) (by decide), .positional _, .named (by decide) (by decide) (by decide),
      .literal (by decide) (by decide), .named (by decide) (by decide) (by decide),
      fun token absent => (List.not_mem_nil absent).elim⟩
  have printable : Printable delicateTokens := ⟨⟨by decide, by decide⟩, each⟩
  exact ⟨printable, by decide +kernel, tokenize_toSource printable none⟩

end QueryTemplates
