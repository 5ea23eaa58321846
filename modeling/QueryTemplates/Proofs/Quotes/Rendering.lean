import QueryTemplates.Proofs.Dictionary
import QueryTemplates.Proofs.Number.Numeral
import QueryTemplates.Proofs.Quotes.Values
import QueryTemplates.Proofs.Rendering.Tokens
import QueryTemplates.Proofs.Template.Canonical
import QueryTemplates.Proofs.Template.Standard

/-! # Rendered queries read as they are written

A template whose literals end outside strings, and whose placeholders stand apart from each other and from
quotes, keeps its strings and its code when it is rendered: the rendered text reads as its literals and
the texts of its arguments, each read alone. What an argument holds can therefore neither end a string of
the template nor open one.
-/

namespace QueryTemplates

open Quotes List

/-- The value that a call gives for a token; literals have none. -/
def Token.argument? (arguments : Arguments) : Token → Option Value
  | .literal _ => none
  | .positional index _ => some (arguments.atIndex index)
  | .named name _ => some (arguments.atName name)

/-- Two tokens that may be next to each other: a placeholder is not next to another one, nor next to a
quote of a literal. -/
def Token.MayTouch : Token → Token → Prop
  | .literal _, .literal _ => True
  | .literal text, _ => text.getLast? ≠ some '\''
  | _, .literal text => text.head? ≠ some '\''
  | _, _ => False

instance : DecidableRel Token.MayTouch
  | .literal _, .literal _ => .isTrue trivial
  | .literal text, .positional _ _ => inferInstanceAs (Decidable (text.getLast? ≠ some '\''))
  | .literal text, .named _ _ => inferInstanceAs (Decidable (text.getLast? ≠ some '\''))
  | .positional _ _, .literal text => inferInstanceAs (Decidable (text.head? ≠ some '\''))
  | .named _ _, .literal text => inferInstanceAs (Decidable (text.head? ≠ some '\''))
  | .positional _ _, .positional _ _ | .positional _ _, .named _ _ => .isFalse id
  | .named _ _, .positional _ _ | .named _ _, .named _ _ => .isFalse id

/-- The processors that put texts between single quotes, and the texts that they leave bare all the
same. -/
inductive Quoting : (bare : Text → Bool) → Processor → Prop
  | sql (words : Sql) (true_free : '\'' ∉ words.trueWord) (false_free : '\'' ∉ words.falseWord) :
      Quoting (fun _ => false) words.processor
  | configurable (settings : Configurable) (wraps : settings.wrapsTexts = true)
      (delimiter : settings.delimiter = ['\'']) (no_default : settings.substitutesDefault = false)
      (never_bare : settings.keepsDefaultBare = false) :
      Quoting (bareNumeric settings) settings.processor

theorem Quoting.faithful {bare : Text → Bool} {processor : Processor}
    (quoting : Quoting bare processor) : FaithfulProcessor bare processor := by
  cases quoting with
  | sql words true_free false_free => exact sql_faithful words true_free false_free
  | configurable settings wraps delimiter no_default never_bare =>
    exact configurable_faithful settings wraps delimiter no_default never_bare

variable {bare : Text → Bool} {processor : Processor} {id : Text} {arguments : Arguments}

/-! ## One token -/

/-- The text of a placeholder reads as its argument is built. -/
theorem Token.render_faithful (faithful : FaithfulProcessor bare processor) {token : Token}
    {value : Value} {text : Text} (argument : token.argument? arguments = some value)
    (done : token.render processor id arguments = .ok text) : Faithful bare value text := by
  have written {key : Text} {missing : RenderError}
      (done : processor.argument key id value missing = .ok text) : Faithful bare value text := by
    rcases Processor.argument_eq_ok done with ⟨rfl, substituted⟩ | formatted
    · exact faithful.substitute substituted
    · exact faithful.format formatted
  cases token with
  | literal text => cases argument
  | positional index _ =>
    cases argument
    exact written done
  | named name _ =>
    cases argument
    exact written done

/-! ## All tokens -/

/-- The texts of two tokens that may touch stand apart, if the second one is a literal with some text or
its placeholder comes after a literal. -/
private theorem apart_of_mayTouch {first second : Token} {own next : Text} (later : Text)
    (touch : first.MayTouch second) (literals : ¬ (first.isLiteral = true ∧ second.isLiteral = true))
    (some_text : second ≠ .literal []) (one : first.render processor id arguments = .ok own)
    (two : second.render processor id arguments = .ok next) : Apart own (next ++ later) := by
  cases first with
  | literal text =>
    cases one
    cases second with
    | literal more => exact absurd ⟨rfl, rfl⟩ literals
    | positional index written => exact .inl touch
    | named name written => exact .inl touch
  | positional index written | named name written =>
    cases second with
    | positional _ _ | named _ _ => exact touch.elim
    | literal more =>
      cases two
      refine .inr ?_
      cases next with
      | nil => exact absurd rfl some_text
      | cons c next => exact touch

/-- The texts of tokens are read one by one. -/
theorem reading_flatten (faithful : FaithfulProcessor bare processor) {tokens : List Token}
    {texts : List Text} (canonical : Canonical tokens) (spaced : tokens.IsChain Token.MayTouch)
    (closed : ∀ text, Token.literal text ∈ tokens.dropLast → EndsOutside text)
    (each : Forall₂ (fun token text => token.render processor id arguments = .ok text) tokens texts) :
    reading texts.flatten = texts.flatMap reading := by
  induction each with
  | nil => rfl
  | @cons token text rest others one each ih =>
    cases each with
    | nil => simp only [List.flatten_cons, List.flatten_nil, List.append_nil, List.flatMap_singleton]
    | @cons second next rest others two each =>
      have inner := ih canonical.tail spaced.tail fun literal member =>
        closed literal (by rw [List.dropLast_cons_cons]; exact List.mem_cons_of_mem _ member)
      have text_closed : EndsOutside text := by
        cases value : token.argument? arguments with
        | some value => exact (token.render_faithful faithful value one).closed
        | none =>
          cases token with
          | literal own =>
            cases one
            exact closed text (by rw [List.dropLast_cons_cons]; exact List.mem_cons_self ..)
          | positional index written => cases value
          | named name written => cases value
      have apart := apart_of_mayTouch others.flatten spaced.rel canonical.separated.rel
        (fun empty => canonical.no_empty (by simp [empty])) one two
      rw [List.flatten_cons, List.flatMap_cons, ← inner]
      exact reading_append text_closed apart

/-- Rendering is safe from injection. Take a query of a registry whose literals end outside strings, except
that the last token may end inside, and whose placeholders are next to neither each other nor quotes. With a
processor that quotes texts, a rendered text reads as the texts of its tokens, each read alone, and the text
of a placeholder ends outside strings and reads as its argument is built. -/
theorem reading_of_render {placeholder : Placeholder} {newLine : Text} {definitions : Dictionary Text}
    {registry : Registry} (built : Registry.build placeholder newLine definitions = .ok registry)
    (quoting : Quoting bare processor) {tokens : List Token} (known : registry.tokens? id = some tokens)
    (closed : ∀ text, Token.literal text ∈ tokens.dropLast → EndsOutside text)
    (spaced : tokens.IsChain Token.MayTouch) {text : Text}
    (rendered : registry.render processor id arguments = .ok text) :
    (∃ texts, Forall₂ (fun token text => token.render processor id arguments = .ok text) tokens texts ∧
      reading text = texts.flatMap reading) ∧
    ∀ token ∈ tokens, ∀ value, token.argument? arguments = some value → ∃ written,
      token.render processor id arguments = .ok written ∧ EndsOutside written ∧
        ReadsAs bare value (reading written) := by
  obtain ⟨body, -, tokenized⟩ := (Registry.tokens?_of_build built).mp known
  have canonical := canonical_of_tokenize tokenized
  simp only [Registry.render, known] at rendered
  obtain ⟨texts, each, rfl⟩ := renderTokens_eq_ok_iff.mp rendered
  refine ⟨⟨texts, each, reading_flatten quoting.faithful canonical spaced closed each⟩, ?_⟩
  intro token member value argument
  obtain ⟨written, one⟩ := exists_mapM_iff.mp ⟨texts, mapM_eq_ok_iff.mpr each⟩ token member
  have faithful := token.render_faithful quoting.faithful argument one
  exact ⟨written, one, faithful.closed, faithful.reads⟩

/-- The body of a query with strings of its own, the last of which is not closed. -/
def quotesBody : Text := "SELECT 'it''s' WHERE a = $\x7bx\x7d AND b IN $\x7b1\x7d OR c = 'rest".toList

/-- The tokens of this query. -/
def quotesTokens : List Token :=
  [.literal "SELECT 'it''s' WHERE a = ".toList, .named ['x'] (some "$\x7bx\x7d".toList),
    .literal " AND b IN ".toList, .positional .first (some "$\x7b1\x7d".toList),
    .literal " OR c = 'rest".toList]

/-- Arguments that try to end their strings. -/
def quotesArguments : Arguments :=
  ⟨[.list [.text "' --".toList, .null, .list []]], [(['x'], .text "'; DROP t; '".toList)]⟩

/-- What the query is with these arguments. -/
def quotesText : Text :=
  ("SELECT 'it''s' WHERE a = '''; DROP t; ''' " ++
    "AND b IN (''' --', NULL, (SELECT 1 WHERE 1=0)) OR c = 'rest").toList

theorem reading_of_render_quotes : ∃ registry,
    Registry.build .standard ['\n'] (Dictionary.ofList [(['q'], quotesBody)]) = .ok registry ∧
      registry.tokens? ['q'] = some quotesTokens ∧
      registry.render Sql.standard.processor ['q'] quotesArguments = .ok quotesText ∧
      ∃ texts, Forall₂ (fun token text =>
          token.render Sql.standard.processor ['q'] quotesArguments = .ok text) quotesTokens texts ∧
        reading quotesText = texts.flatMap reading := by
  have built : Registry.build .standard ['\n'] (Dictionary.ofList [(['q'], quotesBody)]) =
      .ok ⟨Dictionary.ofList [(['q'], quotesTokens)]⟩ := by decide +kernel
  have rendered : Registry.render ⟨Dictionary.ofList [(['q'], quotesTokens)]⟩ Sql.standard.processor
      ['q'] quotesArguments = .ok quotesText := by decide +kernel
  have quoting := Quoting.sql Sql.standard (by decide) (by decide)
  have closed : ∀ text, Token.literal text ∈ quotesTokens.dropLast → EndsOutside text := by
    intro text member
    have literal : text = "SELECT 'it''s' WHERE a = ".toList ∨ text = " AND b IN ".toList := by
      simpa [quotesTokens] using member
    rcases literal with rfl | rfl
    · decide
    · decide
  exact ⟨_, built, rfl, rendered,
    (reading_of_render built quoting rfl closed (by decide +kernel) rendered).1⟩

end QueryTemplates
