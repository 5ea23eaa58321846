import QueryTemplates.Proofs.Files.Listing
import QueryTemplates.Proofs.Manager.Loading
import QueryTemplates.Proofs.Pattern.Faults

/-! # How loads fail

A load that fails leaves the manager as it is. It ends with a startup error, which is its last report and its
only report of an error, or with another failure, which is not reported and has one of a few causes: a fault
of the pattern, a null character in a path, or a path that is too long. Two causes more are set aside. One is the
limit that an interpreter sets to nested calls, which a pattern with many groups inside each other or a deep tree
of directories can exceed. The other is a path that is no text of characters, so that it cannot be encoded.
-/

namespace QueryTemplates

/-! ## Reports on the way -/

/-- None of the reports is one of an error. -/
def Logged.IsCalm {α : Type} (activity : Logged α) : Prop := ∀ entry ∈ activity.log, entry.level ≠ .error

namespace Logged.IsCalm

variable {α β : Type} {activity : Logged α}

theorem quiet (result : α) : (Logged.quiet result).IsCalm := fun _ none => absurd none List.not_mem_nil

theorem after {entry : LogEntry} (minor : entry.level ≠ .error) (calm : activity.IsCalm) :
    (Logged.after entry activity).IsCalm :=
  List.forall_mem_cons.mpr ⟨minor, calm⟩

theorem andThen {second : α → Logged β} (calm : activity.IsCalm) (later : ∀ result, (second result).IsCalm) :
    (activity.andThen second).IsCalm :=
  List.forall_mem_append.mpr ⟨calm, later _⟩

end Logged.IsCalm

variable {root : FileTree} {format : BlockFormat} {policy : DuplicatePolicy}

variable {pattern path : Text} {paths : List Text} {failure : StartupFailure}

namespace Manager

/-! ## Failures -/

/-- The load has ended with the failure and has left the manager as it was. What is reported of the failure
comes last, and no other report is one of an error. -/
structure FailsWith (manager : Manager) (failure : StartupFailure)
    (outcome : Logged (Manager × Except StartupFailure Unit)) : Prop where
  unchanged : outcome.result = (manager, .error failure)
  reported : ∃ before, outcome.log = before ++ failureLog failure ∧ ∀ entry ∈ before, entry.level ≠ .error

variable {manager : Manager}

theorem FailsWith.after {outcome : Logged (Manager × Except StartupFailure Unit)} {entry : LogEntry}
    (fails : manager.FailsWith failure outcome) (minor : entry.level ≠ .error) :
    manager.FailsWith failure (Logged.after entry outcome) := by
  obtain ⟨before, log, calm⟩ := fails.reported
  refine ⟨fails.unchanged, entry :: before, ?_, List.forall_mem_cons.mpr ⟨minor, calm⟩⟩
  rw [Logged.after, log, List.cons_append]

end Manager

end QueryTemplates
