import QueryTemplates.Config.Basic
import QueryTemplates.Proofs.Rendering.Failures

/-! # Unknown queries

A rendering tells that a query is unknown exactly when there is no such query, unless the processor tells so
itself, which those of this library never do.
-/

namespace QueryTemplates

/-- The processor never says that a query is unknown. -/
structure Processor.KnowsQueries (processor : Processor) : Prop where
  format : ∀ key id value other, processor.format key id value ≠ .error (.error (.unknownQuery other))
  substitute : ∀ key id other, processor.substitute key id ≠ .error (.error (.unknownQuery other))

variable {id key other : Text} {value : Value} {failure : RenderFailure}

/-! ## The processors of this library -/

/-- What a failure to write a value is about is not that a query is unknown. -/
theorem RenderFailure.IsOfValue.ne_unknownQuery (failed : failure.IsOfValue key id value) :
    failure ≠ .error (.unknownQuery other) := by
  cases failed with
  | unsupported _ => nofun
  | held holds => obtain rfl | ⟨message, rfl⟩ := holds.eq_or <;> nofun

theorem Sql.knowsQueries (words : Sql) : words.processor.KnowsQueries where
  format _ _ _ _ failed := (words.isOfValue_of_format failed).ne_unknownQuery rfl
  substitute _ _ _ failed := nomatch failed

theorem Configurable.knowsQueries (settings : Configurable) : settings.processor.KnowsQueries where
  format _ _ _ _ failed := (settings.isOfValue_of_format failed).ne_unknownQuery rfl
  substitute _ _ _ failed := (settings.isOfValue_of_substitute failed).ne_unknownQuery rfl

/-- The processor that a configuration asks for is one of them. -/
theorem Config.knowsQueries (config : Config) : config.processor.KnowsQueries := by
  rw [processor]
  cases config.kind with
  | configurable => exact config.configurable.knowsQueries
  | sql => exact config.sql.knowsQueries

/-! ## Renderings -/

namespace Processor.KnowsQueries

variable {processor : Processor} {arguments : Arguments} {tokens : List Token}

theorem argument_ne (knows : processor.KnowsQueries) {missing : RenderError}
    (not_unknown : missing ≠ .unknownQuery other) :
    processor.argument key id value missing ≠ .error (.error (.unknownQuery other)) := by
  intro failed
  rcases argument_eq_error failed with unwritten | unsubstituted | same
  · exact knows.format _ _ _ _ unwritten
  · exact knows.substitute _ _ _ unsubstituted
  · exact not_unknown (RenderFailure.error.inj same).symm

theorem token_ne (knows : processor.KnowsQueries) (token : Token) :
    token.render processor id arguments ≠ .error (.error (.unknownQuery other)) := by
  cases token with
  | literal text => exact fun failed => nomatch failed
  | positional index _ => exact knows.argument_ne fun same => nomatch same
  | named name _ => exact knows.argument_ne fun same => nomatch same

theorem renderTokens_ne (knows : processor.KnowsQueries) :
    renderTokens processor id arguments tokens ≠ .error (.error (.unknownQuery other)) := by
  intro failed
  obtain ⟨_, token, _, -, one, -⟩ := renderTokens_eq_error_iff.mp failed
  exact knows.token_ne token one

/-- Only a query that is not there is said to be unknown. -/
theorem render_eq_unknownQuery_iff (knows : processor.KnowsQueries) {registry : Registry} :
    registry.render processor id arguments = .error (.error (.unknownQuery other)) ↔
      registry.tokens? id = none ∧ other = id := by
  rw [Registry.render]
  split
  · next absent =>
    simp only [absent, Except.error.injEq, RenderFailure.error.injEq, RenderError.unknownQuery.injEq,
      true_and]
    exact eq_comm
  · next tokens found =>
    simp only [found, knows.renderTokens_ne, reduceCtorEq, false_and]

end Processor.KnowsQueries

end QueryTemplates
