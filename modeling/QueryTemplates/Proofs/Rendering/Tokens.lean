import QueryTemplates.Proofs.Results
import QueryTemplates.Rendering

/-! # The texts of arguments and of tokens

The processor writes an argument, and where it is null, says what stands for it. Tokens are rendered one by
one: what they have is the texts of all, and what they fail with is the failure of the first that fails.
-/

namespace QueryTemplates

variable {processor : Processor} {id key : Text} {value : Value} {missing : RenderError}
  {arguments : Arguments} {tokens : List Token} {text : Text} {failure : RenderFailure}

/-! ## One argument -/

namespace Processor

theorem argument_of_null : processor.argument key id .null missing =
    match processor.substitute key id with
    | .error failure => .error failure
    | .ok none => .error (.error missing)
    | .ok (some text) => .ok text :=
  rfl

theorem argument_of_ne_null (some_value : value ≠ .null) :
    processor.argument key id value missing = processor.format key id value := by
  have present : value.isNull = false := by
    cases value with
    | null => exact absurd rfl some_value
    | _ => rfl
  simp only [argument, present, Bool.false_eq_true, if_false]

theorem argument_eq_ok (done : processor.argument key id value missing = .ok text) :
    (value = .null ∧ processor.substitute key id = .ok (some text)) ∨
      processor.format key id value = .ok text := by
  by_cases null : value = .null
  · subst null
    rw [argument_of_null] at done
    split at done
    · cases done
    · cases done
    · next substituted =>
      cases done
      exact .inl ⟨rfl, substituted⟩
  · rw [argument_of_ne_null null] at done
    exact .inr done

theorem argument_eq_error (failed : processor.argument key id value missing = .error failure) :
    processor.format key id value = .error failure ∨ processor.substitute key id = .error failure ∨
      failure = .error missing := by
  by_cases null : value = .null
  · subst null
    rw [argument_of_null] at failed
    split at failed
    · next unsubstituted =>
      cases failed
      exact .inr (.inl unsubstituted)
    · cases failed
      exact .inr (.inr rfl)
    · cases failed
  · rw [argument_of_ne_null null] at failed
    exact .inl failed

end Processor

/-! ## All tokens -/

theorem renderTokens_eq_mapM (processor : Processor) (id : Text) (arguments : Arguments)
    (tokens : List Token) : renderTokens processor id arguments tokens =
      (tokens.mapM (Token.render processor id arguments)).map List.flatten := by
  induction tokens with
  | nil => rfl
  | cons token rest ih =>
    rw [renderTokens, List.mapM_cons, ih]
    cases token.render processor id arguments with
    | error failure => rfl
    | ok text => cases rest.mapM (Token.render processor id arguments) <;> rfl

/-- A text that is rendered consists of the texts of its tokens. -/
theorem renderTokens_eq_ok_iff : renderTokens processor id arguments tokens = .ok text ↔
    ∃ texts : List Text,
      List.Forall₂ (fun token text => token.render processor id arguments = .ok text) tokens texts ∧
        text = texts.flatten := by
  rw [renderTokens_eq_mapM, map_eq_ok]
  exact exists_congr fun texts => and_congr mapM_eq_ok_iff eq_comm

theorem exists_renderTokens_iff : (∃ text, renderTokens processor id arguments tokens = .ok text) ↔
    ∀ token ∈ tokens, ∃ text, token.render processor id arguments = .ok text := by
  simp only [← exists_mapM_iff, renderTokens_eq_mapM, map_eq_ok]
  constructor
  · rintro ⟨-, texts, each, -⟩
    exact ⟨texts, each⟩
  · rintro ⟨texts, each⟩
    exact ⟨texts.flatten, texts, each, rfl⟩

theorem renderTokens_eq_error_iff : renderTokens processor id arguments tokens = .error failure ↔
    FirstFailure (fun token cause => token.render processor id arguments = .error cause) tokens failure := by
  rw [renderTokens_eq_mapM, map_eq_error, mapM_eq_error_iff]

/-- Calls for which each token has the same text or failure have the same result. -/
theorem renderTokens_eq_of_forall {first second : Arguments}
    (same : ∀ token ∈ tokens, token.render processor id first = token.render processor id second) :
    renderTokens processor id first tokens = renderTokens processor id second tokens := by
  induction tokens with
  | nil => rfl
  | cons token rest ih =>
    obtain ⟨own, others⟩ := List.forall_mem_cons.mp same
    rw [renderTokens, renderTokens, own, ih others]

end QueryTemplates
