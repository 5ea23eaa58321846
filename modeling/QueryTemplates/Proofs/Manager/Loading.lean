import QueryTemplates.Manager.Basic
import QueryTemplates.Proofs.Results

/-! # What a load does to a manager

A load finds a registry or a failure, and the manager takes the registry or stays as it is. What it fails with
comes from the pattern, from the files, or from a body, whichever is looked at first.
-/

namespace QueryTemplates

/-! ## Patterns -/

/-- Why a pattern cannot be used: it cannot be read, it has no group, or it matches the empty text. -/
inductive Placeholder.Unusable (pattern : Text) : StartupFailure → Prop
  | refused {refusal : Pattern.Refusal} (read : Pattern.read pattern = .error (.refused refusal)) :
    Unusable pattern (.error (.unusablePattern pattern (.refused refusal)))
  | fault {fault : Pattern.Fault} (read : Pattern.read pattern = .error (.fault fault)) :
    Unusable pattern (.pattern fault)
  | noGroup {node : Pattern.Node} (read : Pattern.read pattern = .ok ⟨node, 0⟩) :
    Unusable pattern (.error (.unusablePattern pattern .noGroup))
  | matchesEmpty {node : Pattern.Node} {groups : Nat} (read : Pattern.read pattern = .ok ⟨node, groups⟩)
    (groups_pos : 0 < groups) (empty : node.matchesEmpty = true) :
    Unusable pattern (.error (.unusablePattern pattern .matchesEmpty))

theorem Placeholder.compile_eq_error_iff {pattern : Text} {failure : StartupFailure} :
    compile pattern = .error failure ↔ Unusable pattern failure := by
  rw [compile]
  constructor
  · intro failed
    split at failed
    · next refusal read =>
      cases failed
      exact .refused read
    · next fault read =>
      cases failed
      exact .fault read
    · next node groups read =>
      split at failed
      · next groups_pos =>
        split at failed
        · cases failed
        · next empty =>
          cases failed
          exact .matchesEmpty read groups_pos (Bool.not_eq_false _ ▸ empty)
      · next no_group =>
        cases failed
        obtain rfl := Nat.eq_zero_of_not_pos no_group
        exact .noGroup read
  · intro unusable
    cases unusable with
    | refused read => simp [read]
    | fault read => simp [read]
    | noGroup read => simp [read]
    | matchesEmpty read groups_pos empty => simp [read, groups_pos, empty]

namespace Manager

/-! ## Loads -/

variable {manager : Manager} {root : FileTree} {paths : List Text}

/-- The manager after a load that found queries, and the same one after a failure. -/
def adopt (manager : Manager) : Except StartupFailure Registry → Manager × Except StartupFailure Unit
  | .ok registry => (manager.publish registry, .ok ())
  | .error failure => (manager, .error failure)

theorem load_result (manager : Manager) (root : FileTree) (paths : List Text) :
    (manager.load root paths).result = manager.adopt (buildRegistry manager.config root paths).result := by
  simp only [load, Logged.andThen]
  cases (buildRegistry manager.config root paths).result with
  | error failure => rfl
  | ok registry => rfl

/-- A load that succeeds makes the queries of the files those of the manager. -/
theorem exists_registry_of_load (loaded : (manager.load root paths).result.2 = .ok ()) : ∃ registry,
    (buildRegistry manager.config root paths).result = .ok registry ∧
      (manager.load root paths).result.1 = manager.publish registry := by
  rw [load_result] at loaded ⊢
  cases found : (buildRegistry manager.config root paths).result with
  | error failure =>
    rw [found] at loaded
    cases loaded
  | ok registry => exact ⟨registry, rfl, rfl⟩

theorem load_of_buildRegistry {registry : Registry}
    (found : (buildRegistry manager.config root paths).result = .ok registry) :
    (manager.load root paths).result = (manager.publish registry, .ok ()) := by
  rw [load_result, found, adopt]

/-- A load that fails leaves the manager as it was. -/
theorem load_eq_error_iff {failure : StartupFailure} :
    (manager.load root paths).result.2 = .error failure ↔
      (buildRegistry manager.config root paths).result = .error failure := by
  rw [load_result]
  cases (buildRegistry manager.config root paths).result with
  | error cause => simp [adopt]
  | ok registry => simp [adopt]

theorem unchanged_of_failed_load {failure : StartupFailure}
    (failed : (manager.load root paths).result.2 = .error failure) :
    (manager.load root paths).result.1 = manager := by
  rw [load_result, load_eq_error_iff.mp failed, adopt]

section Building

variable {config : Config}

/-- The queries of files are those of the definitions in them. -/
theorem buildRegistry_eq_ok_iff {registry : Registry} :
    (buildRegistry config root paths).result = .ok registry ↔ ∃ placeholder definitions,
      Placeholder.compile config.pattern = .ok placeholder ∧
        (QueryTemplates.load root config.format config.policy paths).result = .ok definitions ∧
        Registry.build placeholder config.newLine definitions = .ok registry := by
  rw [buildRegistry]
  cases Placeholder.compile config.pattern with
  | error failure => simp [Logged.quiet]
  | ok placeholder =>
    simp only [Logged.map]
    cases (QueryTemplates.load root config.format config.policy paths).result with
    | error failure => simp
    | ok definitions => simp [mapError_eq_ok]

/-- A pattern that cannot be used fails first, then what is wrong with the files, then what is wrong with a
definition. -/
theorem buildRegistry_eq_error_iff {failure : StartupFailure} :
    (buildRegistry config root paths).result = .error failure ↔
      Placeholder.compile config.pattern = .error failure ∨ ∃ placeholder,
        Placeholder.compile config.pattern = .ok placeholder ∧
          ((QueryTemplates.load root config.format config.policy paths).result = .error failure ∨
            ∃ definitions malformation,
              (QueryTemplates.load root config.format config.policy paths).result = .ok definitions ∧
                Registry.build placeholder config.newLine definitions = .error malformation ∧
                .error (.malformed none malformation) = failure) := by
  rw [buildRegistry]
  cases Placeholder.compile config.pattern with
  | error cause => simp [Logged.quiet]
  | ok placeholder =>
    simp only [Logged.map]
    cases (QueryTemplates.load root config.format config.policy paths).result with
    | error cause => simp
    | ok definitions => simp [mapError_eq_error]

end Building

end Manager

end QueryTemplates
