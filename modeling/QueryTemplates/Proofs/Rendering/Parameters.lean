import QueryTemplates.Proofs.Rendering.Failures

/-! # What a template tells of its parameters

The indexes up to the number of positional arguments and the named parameters are what a rendering of the
template can depend on, and where nothing stands for a missing argument, they are what a call has to supply:
all that is supplied is enough, and each name and the last index are needed.
-/

namespace QueryTemplates

/-- What a token can refer to. -/
inductive Parameter
  | positional (index : Index)
  | named (name : Text)
deriving DecidableEq

namespace Parameter

/-- The key under which a processor is told of a parameter. -/
def key : Parameter → Text
  | .positional index => index.numeral
  | .named name => name

/-- The error of a call that does not supply the parameter. -/
def missing (id : Text) : Parameter → RenderError
  | .positional index => .missingPositional id index.value
  | .named name => .missingNamed id name

/-- The value that a call gives, where what is absent is null. -/
def given (arguments : Arguments) : Parameter → Value
  | .positional index => arguments.atIndex index
  | .named name => arguments.atName name

/-- The parameter is one that tokens tell of: an index up to the number of positional arguments, whether it
is used or not, or one of the named parameters. -/
def ToldBy (tokens : List Token) : Parameter → Prop
  | .positional index => index.value ≤ positionalCount tokens
  | .named name => name ∈ namedParameters tokens

end Parameter

/-- The parameter that a token refers to. -/
def Token.parameter? : Token → Option Parameter
  | .literal _ => none
  | .positional index _ => some (.positional index)
  | .named name _ => some (.named name)

/-- The parameters that tokens refer to, in order. -/
def usedParameters (tokens : List Token) : List Parameter := tokens.filterMap Token.parameter?

theorem mem_namedParameters {tokens : List Token} {name : Text} :
    name ∈ namedParameters tokens ↔ .named name ∈ usedParameters tokens := by
  rw [namedParameters, List.mem_eraseDups, usedParameters, List.mem_filterMap, List.mem_filterMap]
  refine exists_congr fun token => and_congr_right fun _ => ?_
  cases token with
  | literal _ | positional _ _ => simp [Token.name?, Token.parameter?]
  | named own _ => simp [Token.name?, Token.parameter?]

private theorem foldl_max_of_le {start : Nat} {numbers : List Nat} :
    start ≤ numbers.foldl max start ∧ (∀ n ∈ numbers, n ≤ numbers.foldl max start) ∧
      (numbers.foldl max start = start ∨ numbers.foldl max start ∈ numbers) := by
  induction numbers generalizing start with
  | nil => simp
  | cons first rest ih =>
    obtain ⟨least, members, reached⟩ := @ih (max start first)
    rw [List.foldl_cons]
    refine ⟨by omega, ?_, ?_⟩
    · intro n member
      rcases List.mem_cons.mp member with rfl | member
      · omega
      · exact members n member
    · rcases reached with same | member
      · rw [same]
        rcases Nat.le_total first start with below | above
        · exact .inl (Nat.max_eq_left below)
        · exact .inr (by rw [Nat.max_eq_right above]; exact List.mem_cons_self ..)
      · exact .inr (List.mem_cons_of_mem _ member)

private theorem mem_indexValues {tokens : List Token} {n : Nat} :
    n ∈ (tokens.filterMap Token.index?).map Index.value ↔
      ∃ index : Index, index.value = n ∧ .positional index ∈ usedParameters tokens := by
  simp only [List.mem_map, List.mem_filterMap, usedParameters]
  constructor
  · rintro ⟨index, ⟨token, member, own⟩, rfl⟩
    refine ⟨index, rfl, token, member, ?_⟩
    cases token with
    | literal _ | named _ _ => cases own
    | positional _ _ =>
      cases own
      rfl
  · rintro ⟨index, rfl, token, member, own⟩
    refine ⟨index, ⟨token, member, ?_⟩, rfl⟩
    cases token with
    | literal _ | named _ _ => cases own
    | positional _ _ =>
      cases own
      rfl

/-- All that is used is told. -/
theorem toldBy_of_used {tokens : List Token} {parameter : Parameter}
    (used : parameter ∈ usedParameters tokens) : parameter.ToldBy tokens := by
  cases parameter with
  | positional index => exact foldl_max_of_le.2.1 _ (mem_indexValues.mpr ⟨index, rfl, used⟩)
  | named name => exact mem_namedParameters.mpr used

namespace Arguments

end Arguments

variable {processor : Processor} {settings : Configurable} {id : Text} {arguments : Arguments}
  {tokens : List Token}

/-! ## Renderings -/

theorem Token.render_of_parameter {token : Token} {parameter : Parameter}
    (refers : token.parameter? = some parameter) :
    token.render processor id arguments =
      processor.argument parameter.key id (parameter.given arguments) (parameter.missing id) := by
  cases token with
  | literal _ => cases refers
  | positional _ _ | named _ _ =>
    cases refers
    rfl

theorem Token.exists_literal {token : Token} (plain : token.parameter? = none) :
    ∃ text, token = .literal text := by
  cases token with
  | literal text => exact ⟨text, rfl⟩
  | positional _ _ | named _ _ => cases plain

/-- A query that refers to its third argument, its first one, and two names, to one of them twice. -/
def mixedTokens : List Token :=
  [.literal "f(".toList, .positional (.small 3 (by decide)) none, .named ['x'] none,
    .positional .first none, .named ['y'] none, .named ['x'] none, .literal [')']]

/-- The registry of this query alone. -/
def mixedRegistry : Registry := ⟨.ofList [(['q'], mixedTokens)]⟩

end QueryTemplates
