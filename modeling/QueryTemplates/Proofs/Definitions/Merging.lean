import QueryTemplates.Definitions.Loading
import QueryTemplates.Proofs.Dictionary
import QueryTemplates.Proofs.Results

/-! # Merging definitions

The definitions of a file are put one after another, so that the last one of an identifier stays. Where
that is not allowed, no identifier comes twice, and none was there before.
-/

namespace QueryTemplates

variable {policy : DuplicatePolicy} {path : Text} {merged : Dictionary Definition}

/-- The definitions with those of one more file, which replace them. -/
def putAll (path : Text) (merged : Dictionary Definition) : List (Text × Text) → Dictionary Definition
  | [] => merged
  | (id, body) :: rest => putAll path (merged.put id ⟨body, path⟩) rest

/-! ## Looking definitions up -/

theorem get?_putAll_of_absent {pairs : List (Text × Text)} {id : Text} (absent : id ∉ pairs.map Prod.fst) :
    (putAll path merged pairs).get? id = merged.get? id := by
  induction pairs generalizing merged with
  | nil => rfl
  | cons pair rest ih =>
    obtain ⟨different, later⟩ := not_or.mp fun same => absent (List.mem_cons.mpr same)
    rw [putAll, ih later, Dictionary.get?_put, if_neg different]

/-- The last definition of an identifier is the one that stays. -/
theorem get?_putAll_of_last (earlier : List (Text × Text)) {id body : Text} {later : List (Text × Text)}
    (last : id ∉ later.map Prod.fst) :
    (putAll path merged (earlier ++ (id, body) :: later)).get? id = some ⟨body, path⟩ := by
  induction earlier generalizing merged with
  | nil => rw [List.nil_append, putAll, get?_putAll_of_absent last, Dictionary.get?_put, if_pos rfl]
  | cons pair earlier ih => exact ih

theorem exists_last {pairs : List (Text × Text)} {id : Text} (member : id ∈ pairs.map Prod.fst) :
    ∃ earlier body later, pairs = earlier ++ (id, body) :: later ∧ id ∉ later.map Prod.fst := by
  induction pairs with
  | nil => exact (List.not_mem_nil member).elim
  | cons pair rest ih =>
    by_cases again : id ∈ rest.map Prod.fst
    · obtain ⟨earlier, body, later, rfl, last⟩ := ih again
      exact ⟨pair :: earlier, body, later, rfl, last⟩
    · rcases List.mem_cons.mp member with rfl | later
      · exact ⟨[], pair.2, rest, rfl, again⟩
      · exact absurd later again

/-! ## Merging -/

private theorem merge_cons_eq_ok {id body : Text} {rest : List (Text × Text)}
    {done : Logged (Dictionary Definition)}
    (merges : merge policy path merged ((id, body) :: rest) = .ok done) :
    (policy = .refuse → merged.get? id = none) ∧ ∃ onward,
      merge policy path (merged.put id ⟨body, path⟩) rest = .ok onward ∧ done.result = onward.result := by
  rw [merge] at merges
  split at merges
  · next absent => exact ⟨fun _ => absent, done, merges, rfl⟩
  · cases policy with
    | refuse => cases merges
    | replace =>
      refine ⟨fun refuses => (nomatch refuses), ?_⟩
      obtain ⟨onward, later, rfl⟩ := map_eq_ok.mp merges
      exact ⟨onward, later, rfl⟩

/-- Merging puts all definitions. -/
theorem result_of_merge {pairs : List (Text × Text)} {done : Logged (Dictionary Definition)}
    (merges : merge policy path merged pairs = .ok done) : done.result = putAll path merged pairs := by
  induction pairs generalizing merged done with
  | nil =>
    cases merges
    rfl
  | cons pair rest ih =>
    obtain ⟨-, onward, later, same⟩ := merge_cons_eq_ok merges
    rw [same, ih later, putAll]

/-- Where identifiers must not be defined again, they differ from each other and from those before. -/
theorem fresh_of_merge {pairs : List (Text × Text)} {done : Logged (Dictionary Definition)}
    (merges : merge .refuse path merged pairs = .ok done) :
    (pairs.map Prod.fst).Nodup ∧ ∀ id ∈ pairs.map Prod.fst, merged.get? id = none := by
  induction pairs generalizing merged done with
  | nil => exact ⟨List.nodup_nil, fun id member => (List.not_mem_nil member).elim⟩
  | cons pair rest ih =>
    obtain ⟨first, onward, later, -⟩ := merge_cons_eq_ok merges
    obtain ⟨distinct, fresh⟩ := ih later
    have others : ∀ id ∈ rest.map Prod.fst, id ≠ pair.1 ∧ merged.get? id = none := by
      intro id member
      have absent := fresh id member
      rw [Dictionary.get?_put] at absent
      split at absent
      · cases absent
      · next different => exact ⟨different, absent⟩
    refine ⟨List.nodup_cons.mpr ⟨fun again => (others _ again).1 rfl, distinct⟩, ?_⟩
    intro id member
    rcases List.mem_cons.mp member with rfl | member
    · exact first rfl
    · exact (others id member).2

end QueryTemplates
