import QueryTemplates.Proofs.Files.Discovery
import QueryTemplates.Proofs.Manager.Refinement

/-! # The files of a session

In the files that a session comes to, no directory has two entries of one name, as long as this holds of the
files that it begins with and of those that are put among them. So every directory that can be listed then is
listed with each of its files once and in their order.
-/

namespace QueryTemplates

namespace FileTree

variable {root here target : FileTree} {above : List FileTree} {names : List Text} {path : Path}

/-- What names lead to from a tree lies in it, or in one of the directories above it. -/
theorem distinctNames_of_walk (distinct : here.DistinctNames) (around : ∀ tree ∈ above, tree.DistinctNames)
    (found : walk above here names = .ok target) : target.DistinctNames := by
  induction names generalizing above here with
  | nil =>
    cases found
    exact distinct
  | cons name rest ih =>
    rw [walk.eq_def] at found
    cases here with
    | file bytes => cases found
    | directory entries =>
      dsimp only at found
      split at found
      · cases above with
        | nil => cases found
        | cons parent further =>
          obtain ⟨own, others⟩ := List.forall_mem_cons.mp around
          exact ih own others found
      · split at found
        · cases found
        · split at found
          · cases found
          · next inner => exact ih (distinct.lookup inner) (List.forall_mem_cons.mpr ⟨distinct, around⟩) found

theorem distinctNames_of_find (distinct : root.DistinctNames) (found : root.find path = .ok target) :
    target.DistinctNames := by
  rw [find] at found
  split at found
  · cases found
  · split at found
    · cases found
    · exact distinctNames_of_walk distinct (List.forall_mem_nil _) found

end FileTree

open FileTree

/-- In the files that the operation puts somewhere, names are distinct. -/
def Operation.PutsDistinctNames : Operation → Prop
  | .write _ tree => tree.DistinctNames
  | .change files => files.DistinctNames
  | _ => True

namespace Session

variable {session : Session} {operation : Operation}

/-- An operation keeps the names in the files of a session distinct. -/
theorem distinctNames_step (distinct : session.files.DistinctNames) (puts : operation.PutsDistinctNames) :
    (session.step operation).result.1.files.DistinctNames := by
  cases operation with
  | write path tree => exact distinctNames_write distinct puts _
  | delete path => exact distinctNames_delete distinct _
  | change files => exact puts
  | _ => exact distinct

theorem distinctNames_after (distinct : session.files.DistinctNames) {operations : List Operation}
    (put : ∀ operation ∈ operations, operation.PutsDistinctNames) :
    (session.after operations).files.DistinctNames := by
  induction operations generalizing session with
  | nil => exact distinct
  | cons operation rest ih =>
    obtain ⟨first, later⟩ := List.forall_mem_cons.mp put
    exact ih (distinctNames_step distinct first) later

/-- After any operations, what is listed at a directory are the files below it, once each and in their order. -/
theorem isListing_after (distinct : session.files.DistinctNames) {operations : List Operation}
    (put : ∀ operation ∈ operations, operation.PutsDistinctNames) {location : Text}
    {entries : List (Text × FileTree)} (here : (session.after operations).files.HasDirectory location entries)
    {paths : List Path} (done : (session.after operations).files.list location = .ok paths) :
    ∃ listed, paths = listed.map (Path.ofText location).below ∧ IsListing (.directory entries) listed := by
  have kept := distinctNames_after distinct put
  exact ⟨_, ((list_eq_ok_iff here).mp done).2, isListing_files (distinctNames_of_find kept here.found)⟩

end Session

end QueryTemplates
