import Mathlib.Control.Monad.Basic
import Mathlib.Data.List.Forall2

/-! # Results that may be failures

What follows from the success of something that is done in steps, namely that each step has succeeded, and
from its failure, namely that one of the steps has failed.
-/

namespace QueryTemplates

variable {ε δ α β : Type}

/-- What succeeds in two steps has a first result. -/
theorem of_bind_eq_ok {first : Except ε α} {second : α → Except ε β} {result : β}
    (done : first >>= second = .ok result) : ∃ middle, first = .ok middle ∧ second middle = .ok result := by
  cases first with
  | error failure => cases done
  | ok middle => exact ⟨middle, rfl, done⟩

/-- What fails in two steps fails in the first one, or in the second one after a result of the first. -/
theorem of_bind_eq_error {first : Except ε α} {second : α → Except ε β} {failure : ε}
    (failed : first >>= second = .error failure) :
    first = .error failure ∨ ∃ middle, first = .ok middle ∧ second middle = .error failure := by
  cases first with
  | error cause =>
    cases failed
    exact .inl rfl
  | ok middle => exact .inr ⟨middle, rfl, failed⟩

theorem map_eq_ok {first : Except ε α} {change : α → β} {result : β} :
    first.map change = .ok result ↔ ∃ middle, first = .ok middle ∧ change middle = result := by
  constructor
  · intro done
    cases first with
    | error failure => cases done
    | ok middle =>
      cases done
      exact ⟨middle, rfl, rfl⟩
  · rintro ⟨middle, rfl, rfl⟩
    rfl

theorem map_eq_error {first : Except ε α} {change : α → β} {failure : ε} :
    first.map change = .error failure ↔ first = .error failure := by
  cases first with
  | error cause => simp [Except.map]
  | ok middle => simp [Except.map]

theorem isOk_iff {outcome : Except ε α} : outcome.isOk = true ↔ ∃ result, outcome = .ok result := by
  cases outcome with
  | ok result => exact iff_of_true rfl ⟨result, rfl⟩
  | error failure => exact iff_of_false Bool.false_ne_true nofun

theorem mapError_eq_ok {first : Except ε α} {change : ε → δ} {result : α} :
    first.mapError change = .ok result ↔ first = .ok result := by
  cases first with
  | error failure => simp [Except.mapError]
  | ok middle => simp [Except.mapError]

theorem mapError_eq_error {first : Except ε α} {change : ε → δ} {failure : δ} :
    first.mapError change = .error failure ↔ ∃ cause, first = .error cause ∧ change cause = failure := by
  cases first with
  | error cause => simp [Except.mapError]
  | ok middle => simp [Except.mapError]

/-! ## The first failure -/

/-- The failure of the first item that has one. -/
def FirstFailure (fails : α → ε → Prop) (items : List α) (failure : ε) : Prop :=
  ∃ earlier item later, items = earlier ++ item :: later ∧ fails item failure ∧
    ∀ other ∈ earlier, ∀ cause, ¬ fails other cause

namespace FirstFailure

variable {fails : α → ε → Prop} {item : α} {items : List α} {failure : ε}

theorem not_nil : ¬ FirstFailure fails [] failure := by
  rintro ⟨earlier, item, later, same, -⟩
  exact absurd same.symm (List.append_ne_nil_of_right_ne_nil _ (List.cons_ne_nil _ _))

theorem cons_iff : FirstFailure fails (item :: items) failure ↔
    fails item failure ∨ (∀ cause, ¬ fails item cause) ∧ FirstFailure fails items failure := by
  constructor
  · rintro ⟨earlier, found, later, same, failed, sound⟩
    cases earlier with
    | nil =>
      cases same
      exact .inl failed
    | cons first earlier =>
      cases same
      obtain ⟨own, others⟩ := List.forall_mem_cons.mp sound
      exact .inr ⟨own, earlier, found, later, rfl, failed, others⟩
  · rintro (failed | ⟨own, earlier, found, later, rfl, failed, sound⟩)
    · exact ⟨[], item, items, rfl, failed, fun other absent => (List.not_mem_nil absent).elim⟩
    · exact ⟨item :: earlier, found, later, rfl, failed, List.forall_mem_cons.mpr ⟨own, sound⟩⟩

/-- There is a first failure if there is any. -/
theorem exists_iff : (∃ failure, FirstFailure fails items failure) ↔
    ∃ item ∈ items, ∃ failure, fails item failure := by
  induction items with
  | nil => simp [not_nil]
  | cons item rest ih =>
    simp only [cons_iff, List.exists_mem_cons_iff, ← ih]
    constructor
    · rintro ⟨failure, failed | ⟨-, later⟩⟩
      · exact .inl ⟨failure, failed⟩
      · exact .inr ⟨failure, later⟩
    · rintro (⟨failure, failed⟩ | ⟨failure, later⟩)
      · exact ⟨failure, .inl failed⟩
      · by_cases sound : ∀ cause, ¬ fails item cause
        · exact ⟨failure, .inr ⟨sound, later⟩⟩
        · obtain ⟨cause, failed⟩ := not_forall_not.mp sound
          exact ⟨cause, .inl failed⟩

/-- Where each failure comes from a cause of another kind, so does the first one. -/
theorem map_iff {causes : α → δ → Prop} {change : δ → ε}
    (each : ∀ item ∈ items, ∀ failure, fails item failure ↔ ∃ cause, causes item cause ∧ failure = change cause) :
    FirstFailure fails items failure ↔ ∃ cause, FirstFailure causes items cause ∧ failure = change cause := by
  induction items with
  | nil => simp [not_nil]
  | cons item rest ih =>
    obtain ⟨own, others⟩ := List.forall_mem_cons.mp each
    have sound : (∀ failure, ¬ fails item failure) ↔ ∀ cause, ¬ causes item cause := by
      simp only [own, not_exists, not_and]
      exact ⟨fun none cause found => none _ cause found rfl, fun none _ cause found _ => none cause found⟩
    rw [cons_iff, sound, own, ih others]
    simp only [cons_iff, or_and_right, exists_or, and_assoc, exists_and_left]

theorem congr {causes : α → ε → Prop}
    (each : ∀ item ∈ items, ∀ failure, fails item failure ↔ causes item failure) :
    FirstFailure fails items failure ↔ FirstFailure causes items failure := by
  have mapped : FirstFailure fails items failure ↔ ∃ cause, FirstFailure causes items cause ∧ failure = id cause :=
    map_iff fun item among failure => by simp [each item among failure]
  simpa using mapped

end FirstFailure

/-- Among things that belong together one by one, each has one that it belongs to. -/
theorem exists_of_mem_right {related : α → β → Prop} {items : List α} {results : List β}
    (each : List.Forall₂ related items results) {result : β} (member : result ∈ results) :
    ∃ item ∈ items, related item result := by
  induction each with
  | nil => exact absurd member List.not_mem_nil
  | cons one _ ih =>
    rcases List.mem_cons.mp member with rfl | later
    · exact ⟨_, List.mem_cons_self .., one⟩
    · obtain ⟨item, among, own⟩ := ih later
      exact ⟨item, List.mem_cons_of_mem _ among, own⟩

theorem exists_of_mem_left {related : α → β → Prop} {items : List α} {results : List β}
    (each : List.Forall₂ related items results) {item : α} (member : item ∈ items) :
    ∃ result ∈ results, related item result :=
  exists_of_mem_right each.flip member

/-- Something is done for all items exactly if each of them has its result. -/
theorem mapM_eq_ok_iff {action : α → Except ε β} {items : List α} {results : List β} :
    items.mapM action = .ok results ↔
      List.Forall₂ (fun item result => action item = .ok result) items results := by
  induction items generalizing results with
  | nil =>
    rw [List.forall₂_nil_left_iff]
    constructor
    · intro done
      cases done
      rfl
    · rintro rfl
      rfl
  | cons item rest ih =>
    rw [List.mapM_cons, List.forall₂_cons_left_iff]
    constructor
    · intro done
      obtain ⟨result, own, done⟩ := of_bind_eq_ok done
      obtain ⟨others, more, done⟩ := of_bind_eq_ok done
      cases done
      exact ⟨result, others, own, ih.mp more, rfl⟩
    · rintro ⟨result, others, own, more, rfl⟩
      rw [own, ih.mpr more]
      rfl

/-- It can be done for all items exactly if it can be done for each. -/
theorem exists_mapM_iff {action : α → Except ε β} {items : List α} :
    (∃ results, items.mapM action = .ok results) ↔ ∀ item ∈ items, ∃ result, action item = .ok result := by
  simp only [mapM_eq_ok_iff]
  induction items with
  | nil => simp
  | cons item rest ih =>
    rw [List.forall_mem_cons, ← ih]
    constructor
    · rintro ⟨results, each⟩
      cases each with
      | cons own more => exact ⟨⟨_, own⟩, _, more⟩
    · rintro ⟨⟨result, own⟩, results, more⟩
      exact ⟨result :: results, .cons own more⟩

/-- It fails as the first item does for which it fails. -/
theorem mapM_eq_error_iff {action : α → Except ε β} {items : List α} {failure : ε} :
    items.mapM action = .error failure ↔
      FirstFailure (fun item cause => action item = .error cause) items failure := by
  induction items with
  | nil => exact iff_of_false (fun failed => nomatch failed) FirstFailure.not_nil
  | cons item rest ih =>
    rw [List.mapM_cons, FirstFailure.cons_iff, ← ih]
    constructor
    · intro failed
      rcases of_bind_eq_error failed with own | ⟨result, own, failed⟩
      · exact .inl own
      · rcases of_bind_eq_error failed with later | ⟨others, -, failed⟩
        · refine .inr ⟨fun cause failed => ?_, later⟩
          rw [own] at failed
          cases failed
        · cases failed
    · rintro (own | ⟨sound, later⟩)
      · rw [own]
        rfl
      · cases own : action item with
        | error cause => exact absurd own (sound cause)
        | ok result =>
          rw [later]
          rfl

/-- Outcomes that all succeed are results, one by one. -/
theorem eq_map_ok_of_mapM {outcomes : List (Except ε α)} {results : List α}
    (done : outcomes.mapM (fun outcome => outcome) = .ok results) : outcomes = results.map .ok := by
  have each := mapM_eq_ok_iff.mp done
  rwa [← List.forall₂_map_right_iff, List.forall₂_eq_eq_eq] at each

/-- Where outcomes do not all succeed, the failure is one of theirs. -/
theorem mem_of_mapM_eq_error {outcomes : List (Except ε α)} {failure : ε}
    (failed : outcomes.mapM (fun outcome => outcome) = .error failure) : .error failure ∈ outcomes := by
  obtain ⟨earlier, outcome, later, rfl, rfl, -⟩ := mapM_eq_error_iff.mp failed
  exact List.mem_append_right _ (List.mem_cons_self ..)

/-- Steps fail at the first one that fails, after the state that those before it have led to. -/
theorem foldlM_eq_error_iff {step : β → α → Except ε β} {start : β} {items : List α} {failure : ε} :
    items.foldlM step start = .error failure ↔ ∃ earlier item later state,
      items = earlier ++ item :: later ∧ earlier.foldlM step start = .ok state ∧
        step state item = .error failure := by
  constructor
  · intro failed
    induction items generalizing start with
    | nil => cases failed
    | cons item rest ih =>
      rw [List.foldlM_cons] at failed
      rcases of_bind_eq_error failed with here | ⟨next, one, failed⟩
      · exact ⟨[], item, rest, start, rfl, rfl, here⟩
      · obtain ⟨earlier, later_item, later, state, rfl, reached, there⟩ := ih failed
        refine ⟨item :: earlier, later_item, later, state, rfl, ?_, there⟩
        rw [List.foldlM_cons, one]
        exact reached
  · rintro ⟨earlier, item, later, state, rfl, reached, fails⟩
    rw [List.foldlM_append, reached]
    change (item :: later).foldlM step state = .error failure
    rw [List.foldlM_cons, fails]
    rfl

end QueryTemplates
