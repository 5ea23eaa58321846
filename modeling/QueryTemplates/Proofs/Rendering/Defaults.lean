import QueryTemplates.Proofs.Dictionary
import QueryTemplates.Proofs.Rendering.Parameters

/-! # Defaults as arguments

Where the default value stands for missing arguments, and is written alike when it is supplied, a call has the
same result as the one that supplies it for all that is missing: the same text, or the same failure.
-/

namespace QueryTemplates

instance (tokens : List Token) : (parameter : Parameter) → Decidable (parameter.ToldBy tokens)
  | .positional index => inferInstanceAs (Decidable (index.value ≤ positionalCount tokens))
  | .named name => inferInstanceAs (Decidable (name ∈ namedParameters tokens))

/-! ## Calls that are filled in -/

/-- The value, or another one in the place of null. -/
def Value.orElse (value other : Value) : Value := if value.isNull then other else value

theorem Value.orElse_orElse (value other : Value) : (value.orElse other).orElse other = value.orElse other := by
  cases null : value.isNull with
  | true => simp [orElse, null]
  | false => simp [orElse, null]

namespace Arguments

/-- Positional arguments where each of the first ones, up to a count, is a given value if it is absent or null. -/
def fillPositional (value : Value) : (count : Nat) → List Value → List Value
  | 0, given => given
  | count + 1, [] => value :: fillPositional value count []
  | count + 1, first :: rest => first.orElse value :: fillPositional value count rest

/-- Named arguments where each of some names has a given value if it is absent or null. -/
def fillNamed (value : Value) (names : List Text) (given : List (Text × Value)) : List (Text × Value) :=
  names.foldl
    (fun named name =>
      if ((named.lookup name).getD .null).isNull then Dictionary.putEntry name value named else named)
    given

/-- The call that supplies a value for all that tokens tell of and the call leaves out. -/
def filled (arguments : Arguments) (tokens : List Token) (value : Value) : Arguments where
  positional := fillPositional value (positionalCount tokens) arguments.positional
  named := fillNamed value (namedParameters tokens) arguments.named

variable {value : Value} {tokens : List Token} {arguments : Arguments}

private theorem getElem?_fillPositional (count i : Nat) (given : List Value) :
    (fillPositional value count given)[i]?.getD .null =
      if i < count then (given[i]?.getD .null).orElse value else given[i]?.getD .null := by
  induction count generalizing i given with
  | zero => rfl
  | succ count ih =>
    cases given with
    | nil =>
      cases i with
      | zero => rfl
      | succ i => simpa [fillPositional] using ih i []
    | cons first rest =>
      cases i with
      | zero => rfl
      | succ i => simpa [fillPositional] using ih i rest

private theorem lookup_fillNamed (names : List Text) (name : Text) (given : List (Text × Value)) :
    ((fillNamed value names given).lookup name).getD .null =
      if name ∈ names then ((given.lookup name).getD .null).orElse value
      else (given.lookup name).getD .null := by
  induction names generalizing given with
  | nil => rfl
  | cons first rest ih =>
    rw [fillNamed, List.foldl_cons, ← fillNamed, ih]
    have one : (List.lookup name (if ((given.lookup first).getD .null).isNull
          then Dictionary.putEntry first value given else given)).getD .null =
        if name = first then ((given.lookup name).getD .null).orElse value
        else (given.lookup name).getD .null := by
      split
      · next null =>
        rw [Dictionary.lookup_putEntry]
        split
        · next same => simp [same, Value.orElse, null]
        · rfl
      · next present =>
        split
        · next same => simp [same, Value.orElse, present]
        · rfl
    rw [one]
    by_cases same : name = first
    · simp [same, Value.orElse_orElse]
    · simp [same]

/-- What tokens tell of is filled in where it is missing, and all else is as it was. -/
theorem given_filled (parameter : Parameter) :
    parameter.given (arguments.filled tokens value) =
      if parameter.ToldBy tokens then (parameter.given arguments).orElse value
      else parameter.given arguments := by
  cases parameter with
  | positional index =>
    have below : index.offset < positionalCount tokens ↔ Parameter.ToldBy tokens (.positional index) := by
      have pos := index.pos
      simp only [Parameter.ToldBy, Index.offset]
      omega
    simp only [Parameter.given, atIndex, filled, getElem?_fillPositional, below]
  | named name => exact lookup_fillNamed _ name _

end Arguments

/-! ## Settings that write the default alike -/

/-- A number of any kind. -/
def Value.IsNumber : Value → Prop
  | .int _ | .float _ | .decimal _ => True
  | _ => False

namespace Configurable

/-- What the default value is, or how it is written, so that it makes no difference whether it is supplied. -/
inductive WritesDefaultAlike (settings : Configurable) : Prop
  | escaped (escapes : settings.escapesDefault = true)
  | truth {value : Bool} (default : settings.default = .bool value)
  | number (default : settings.default.IsNumber)
  | text {text : Text} (default : settings.default = .text text) (bare : settings.keepsDefaultBare = true)

variable {settings : Configurable} {key id : Text}

theorem plainText_eq_format_of_number {value : Value} (number : value.IsNumber) :
    value.plainText = settings.format key id value := by
  cases value with
  | int _ | float _ | decimal _ => rfl
  | _ => exact number.elim

theorem characters_of_bare {text : Text} (default : settings.default = .text text)
    (bare : settings.keepsDefaultBare = true) : settings.characters text = text := by
  simp [characters, default, bare, Value.isText]

/-- What stands for a missing value is the text of the default value. -/
theorem substitute_eq_format (substitutes : settings.substitutesDefault = true)
    (some_default : settings.default ≠ .null) (alike : settings.WritesDefaultAlike) :
    settings.substitute key id = (settings.format key id settings.default).map some := by
  have present : settings.default.isNull = false := by
    cases default : settings.default with
    | null => exact absurd default some_default
    | _ => rfl
  simp only [substitute, substitutes, present, Bool.not_true, Bool.false_eq_true, if_false]
  split
  · rfl
  · next unescaped =>
    congr 1
    cases alike with
    | escaped escapes => exact absurd escapes unescaped
    | truth default => simp only [default, format]
    | number default =>
      split
      · next own => simp [own, Value.IsNumber] at default
      · exact plainText_eq_format_of_number default
    | text default bare =>
      simp only [default, format, Value.plainText, Value.numberText?, Value.characters?, Except.map,
        characters_of_bare default bare]

end Configurable

/-! ## Renderings -/

variable {settings : Configurable} {id : Text} {arguments : Arguments} {tokens : List Token}

/-- An argument that may be missing has the text of the value that is supplied for it. -/
theorem Configurable.argument_orElse (substitutes : settings.substitutesDefault = true)
    (some_default : settings.default ≠ .null) (alike : settings.WritesDefaultAlike) {key : Text} (value : Value)
    (missing : RenderError) :
    settings.processor.argument key id value missing =
      settings.processor.argument key id (value.orElse settings.default) missing := by
  cases null : value.isNull with
  | false => rw [Value.orElse, null, if_neg Bool.false_ne_true]
  | true =>
    have stands : settings.processor.substitute key id = (settings.format key id settings.default).map some :=
      substitute_eq_format substitutes some_default alike
    rw [Value.orElse, if_pos null, Processor.argument_of_ne_null some_default, Processor.argument, if_pos null,
      stands]
    change _ = settings.format key id settings.default
    cases settings.format key id settings.default with
    | error failure => rfl
    | ok text => rfl

/-- A call has the same result as the one that supplies the default value for all that is missing. -/
theorem render_filled (substitutes : settings.substitutesDefault = true) (some_default : settings.default ≠ .null)
    (alike : settings.WritesDefaultAlike) (registry : Registry) (id : Text) (arguments : Arguments) :
    registry.render settings.processor id arguments =
      registry.render settings.processor id
        (arguments.filled ((registry.tokens? id).getD []) settings.default) := by
  rw [Registry.render, Registry.render]
  cases registry.tokens? id with
  | none => rfl
  | some tokens =>
    refine renderTokens_eq_of_forall fun token among => ?_
    cases refers : token.parameter? with
    | none =>
      obtain ⟨text, rfl⟩ := Token.exists_literal refers
      rfl
    | some parameter =>
      have told : parameter.ToldBy tokens :=
        toldBy_of_used (List.mem_filterMap.mpr ⟨token, among, refers⟩)
      rw [Token.render_of_parameter refers, Token.render_of_parameter refers, Option.getD_some,
        Arguments.given_filled, if_pos told]
      exact settings.argument_orElse substitutes some_default alike _ _

/-- A bare default with a quote stands for an absent index and for a null name, and a default of a kind that is
not supported fails alike when it is supplied. -/
theorem render_filled_quote :
    let bare := { Configurable.standard with
      substitutesDefault := true, default := .text "it's".toList, keepsDefaultBare := true }
    let escaped := { Configurable.standard with
      substitutesDefault := true, default := .list [.null], escapesDefault := true }
    let tokens : List Token := [.positional (.small 2 (by decide)) none, .literal [' '], .named ['x'] none, .literal [' '],
      .positional .first none]
    let registry : Registry := ⟨Dictionary.ofList [(['q'], tokens)]⟩
    let call : Arguments := ⟨[.text "it's not".toList], [(['y'], .int 1), (['x'], .null)]⟩
    let filled (value : Value) : Arguments :=
      ⟨[.text "it's not".toList, value], [(['y'], .int 1), (['x'], value)]⟩
    bare.WritesDefaultAlike ∧ escaped.WritesDefaultAlike ∧
      registry.render bare.processor ['q'] call = .ok "it's it's 'it''s not'".toList ∧
      registry.render bare.processor ['q'] (filled bare.default) = .ok "it's it's 'it''s not'".toList ∧
      registry.render escaped.processor ['q'] call = .error (Processor.unsupported ['2'] ['q'] escaped.default) ∧
      registry.render escaped.processor ['q'] (filled escaped.default) =
        .error (Processor.unsupported ['2'] ['q'] escaped.default) := by
  intro bare escaped tokens registry call filled
  have bare_alike : bare.WritesDefaultAlike := .text rfl rfl
  have escaped_alike : escaped.WritesDefaultAlike := .escaped rfl
  have text : registry.render bare.processor ['q'] call = .ok "it's it's 'it''s not'".toList := by
    decide +kernel
  have failure : registry.render escaped.processor ['q'] call =
      .error (Processor.unsupported ['2'] ['q'] escaped.default) := by
    decide +kernel
  refine ⟨bare_alike, escaped_alike, text, ?_, failure, ?_⟩
  · rw [← text]
    exact (render_filled rfl (Value.noConfusion) bare_alike registry ['q'] call).symm
  · rw [← failure]
    exact (render_filled rfl (Value.noConfusion) escaped_alike registry ['q'] call).symm

end QueryTemplates
