import Mathlib.Tactic.ByContra
import QueryTemplates.Proofs.Template.Source
import QueryTemplates.Registry

/-! # Laws of dictionaries and registries

Looking up a text finds the value that was put last for it. Changing the values keeps the texts, and where
the change can fail, a result has a changed value for each text. The tokens of a query in a registry are
therefore those of its own body.
-/

namespace QueryTemplates

deriving instance DecidableEq for Dictionary, Registry

namespace Dictionary

variable {α β ε κ : Type}

@[simp] theorem get?_empty (key : Text) : (empty : Dictionary α).get? key = none := rfl

theorem get?_eq_none_iff {dictionary : Dictionary α} {key : Text} :
    dictionary.get? key = none ↔ key ∉ dictionary.keys := by
  rw [get?, keys, List.lookup_eq_none_iff, List.mem_map]
  constructor
  · rintro absent ⟨entry, member, rfl⟩
    exact absurd (absent entry member) (by simp)
  · intro absent entry member
    rw [bne_iff_ne]
    exact fun same => absent ⟨entry, member, same.symm⟩

theorem mem_keys_of_get? {dictionary : Dictionary α} {key : Text} {value : α}
    (found : dictionary.get? key = some value) : key ∈ dictionary.keys := by
  by_contra absent
  rw [get?_eq_none_iff.mpr absent] at found
  cases found

theorem exists_of_mem_keys {dictionary : Dictionary α} {key : Text} (member : key ∈ dictionary.keys) :
    ∃ value, dictionary.get? key = some value := by
  cases found : dictionary.get? key with
  | none => exact absurd member (get?_eq_none_iff.mp found)
  | some value => exact ⟨value, rfl⟩

/-! ## Putting values -/

theorem mem_of_lookup [BEq κ] [LawfulBEq κ] {entries : List (κ × α)} {key : κ} {value : α}
    (found : entries.lookup key = some value) : (key, value) ∈ entries := by
  obtain ⟨before, after, rfl, -⟩ := List.lookup_eq_some_iff.mp found
  exact List.mem_append_right _ (List.mem_cons_self ..)

/-- Looking a text up tells the first entry from the others. -/
theorem lookup_cons (key own : Text) (value : α) (rest : List (Text × α)) :
    List.lookup key ((own, value) :: rest) = if key = own then some value else rest.lookup key := by
  rw [List.lookup_cons]
  cases same : key == own with
  | true => rw [if_pos (beq_iff_eq.mp same)]
  | false => rw [if_neg (beq_eq_false_iff_ne.mp same)]

theorem lookup_putEntry (key other : Text) (value : α) (entries : List (Text × α)) :
    (putEntry key value entries).lookup other =
      if other = key then some value else entries.lookup other := by
  induction entries with
  | nil => rw [putEntry, lookup_cons]
  | cons entry rest ih =>
    obtain ⟨first, earlier⟩ := entry
    by_cases same : first = key
    · subst same
      rw [putEntry, if_pos rfl, lookup_cons, lookup_cons]
      split
      · rfl
      · rfl
    · rw [putEntry, if_neg same, lookup_cons, lookup_cons, ih]
      split
      · next here =>
        subst here
        rw [if_neg same]
      · rfl

/-- The text that was put has its new value, and every other one the value that it had. -/
theorem get?_put (dictionary : Dictionary α) (key other : Text) (value : α) :
    (dictionary.put key value).get? other = if other = key then some value else dictionary.get? other :=
  lookup_putEntry key other value dictionary.entries

/-- Putting adds no entry but the one that is put. -/
theorem mem_putEntry [DecidableEq κ] {key : κ} {value : α} {entries : List (κ × α)} {entry : κ × α}
    (member : entry ∈ putEntry key value entries) : entry = (key, value) ∨ entry ∈ entries := by
  induction entries with
  | nil => exact .inl (List.mem_singleton.mp member)
  | cons first rest ih =>
    rw [putEntry] at member
    split at member
    · exact (List.mem_cons.mp member).imp_right (List.mem_cons_of_mem _)
    · rcases List.mem_cons.mp member with rfl | later
      · exact .inr (List.mem_cons_self ..)
      · exact (ih later).imp_right (List.mem_cons_of_mem _)

private theorem keys_putEntry (key : Text) (value : α) (entries : List (Text × α)) :
    (putEntry key value entries).map Prod.fst =
      if key ∈ entries.map Prod.fst then entries.map Prod.fst else entries.map Prod.fst ++ [key] := by
  induction entries with
  | nil => rfl
  | cons entry rest ih =>
    obtain ⟨first, earlier⟩ := entry
    by_cases same : first = key
    · subst same
      rw [putEntry, if_pos rfl, List.map_cons, List.map_cons, if_pos (List.mem_cons_self ..)]
    · rw [putEntry, if_neg same, List.map_cons, List.map_cons, ih]
      simp only [List.mem_cons, Ne.symm same, false_or]
      split
      · rfl
      · rfl

/-- A text keeps its place when it is put again, and a new one comes last. -/
theorem keys_put (dictionary : Dictionary α) (key : Text) (value : α) :
    (dictionary.put key value).keys =
      if key ∈ dictionary.keys then dictionary.keys else dictionary.keys ++ [key] :=
  keys_putEntry key value dictionary.entries

/-! ## Changing values -/

theorem keys_mapValues (change : α → β) (dictionary : Dictionary α) :
    (dictionary.mapValues change).keys = dictionary.keys := by
  simp [keys, mapValues, Function.comp_def]

theorem get?_mapValues (change : α → β) (dictionary : Dictionary α) (key : Text) :
    (dictionary.mapValues change).get? key = (dictionary.get? key).map change := by
  obtain ⟨entries, nodup⟩ := dictionary
  simp only [get?, mapValues]
  clear nodup
  induction entries with
  | nil => rfl
  | cons entry rest ih =>
    rw [List.map_cons, List.lookup_cons, List.lookup_cons, ih]
    cases key == entry.1 with
    | true => rfl
    | false => rfl

private theorem map_putEntry (change : α → β) (key : Text) (value : α) (entries : List (Text × α)) :
    (putEntry key value entries).map (fun (key, value) => (key, change value)) =
      putEntry key (change value) (entries.map fun (key, value) => (key, change value)) := by
  induction entries with
  | nil => rfl
  | cons entry rest ih =>
    obtain ⟨other, earlier⟩ := entry
    by_cases same : other = key
    · simp only [putEntry, same, if_true, List.map_cons]
    · simp only [putEntry, same, if_false, List.map_cons, ih]

/-- A value that is put is changed with the others. -/
theorem mapValues_put (change : α → β) (dictionary : Dictionary α) (key : Text) (value : α) :
    (dictionary.put key value).mapValues change = (dictionary.mapValues change).put key (change value) := by
  simp only [put, mapValues, mk.injEq]
  exact map_putEntry change key value dictionary.entries

/-- The later entry is the earlier one with its value changed. -/
def IsChanged (change : Text → α → Except ε β) (earlier : Text × α) (later : Text × β) : Prop :=
  later.1 = earlier.1 ∧ change earlier.1 earlier.2 = .ok later.2

theorem changeEntries_eq_mapM (change : Text → α → Except ε β) (entries : List (Text × α)) :
    changeEntries change entries = entries.mapM fun entry => (change entry.1 entry.2).map (entry.1, ·) := by
  induction entries with
  | nil => rfl
  | cons entry rest ih =>
    rw [changeEntries, List.mapM_cons, ← ih]
    cases change entry.1 entry.2 with
    | error failure => rfl
    | ok changed => cases changeEntries change rest <;> rfl

section Changing

variable {change : Text → α → Except ε β} {dictionary : Dictionary α} {result : Dictionary β} {failure : ε}

theorem changeEntries_eq_ok_iff {entries : List (Text × α)} {done : List (Text × β)} :
    changeEntries change entries = .ok done ↔ List.Forall₂ (IsChanged change) entries done := by
  have one (earlier : Text × α) (later : Text × β) :
      (change earlier.1 earlier.2).map (earlier.1, ·) = .ok later ↔ IsChanged change earlier later := by
    rw [map_eq_ok]
    constructor
    · rintro ⟨value, own, rfl⟩
      exact ⟨rfl, own⟩
    · rintro ⟨same, own⟩
      exact ⟨later.2, own, Prod.ext same.symm rfl⟩
  rw [changeEntries_eq_mapM, mapM_eq_ok_iff]
  simp only [one]

/-- All values are changed, one by one and in order. -/
theorem traverse_eq_ok_iff : dictionary.traverse change = .ok result ↔
    List.Forall₂ (IsChanged change) dictionary.entries result.entries := by
  rw [← changeEntries_eq_ok_iff, traverse]
  split
  · next cause failed => simp [failed]
  · next done all =>
    constructor
    · intro same
      cases same
      exact all
    · intro same
      cases all.symm.trans same
      rfl

/-- The first value that cannot be changed says why. -/
theorem traverse_eq_error_iff : dictionary.traverse change = .error failure ↔
    FirstFailure (fun entry cause => change entry.1 entry.2 = .error cause) dictionary.entries failure := by
  have entries : dictionary.traverse change = .error failure ↔
      changeEntries change dictionary.entries = .error failure := by
    rw [traverse]
    split
    · next cause failed => simp [failed]
    · next done all => simp [all]
  simp only [entries, changeEntries_eq_mapM, mapM_eq_error_iff, map_eq_error]

private theorem lookup_of_forall₂ {entries : List (Text × α)} {done : List (Text × β)}
    (each : List.Forall₂ (IsChanged change) entries done) {key : Text} {value : β} :
    done.lookup key = some value ↔
      ∃ earlier, entries.lookup key = some earlier ∧ change key earlier = .ok value := by
  induction each with
  | nil => simp
  | @cons entry changed _ _ one _ ih =>
    obtain ⟨own, held⟩ := entry
    obtain ⟨also, written⟩ := changed
    obtain ⟨same, first⟩ : also = own ∧ change own held = .ok written := one
    rw [lookup_cons, lookup_cons, same]
    by_cases here : key = own
    · subst here
      simp [first]
    · simp only [here, if_false, ih]

/-- Changing all values keeps the texts and their order. -/
theorem keys_traverse (changed : dictionary.traverse change = .ok result) : result.keys = dictionary.keys :=
  keys_of_changeEntries (changeEntries_eq_ok_iff.mpr (traverse_eq_ok_iff.mp changed))

/-- A text has a changed value exactly when it had one that could be changed. -/
theorem get?_traverse (changed : dictionary.traverse change = .ok result) {key : Text} {value : β} :
    result.get? key = some value ↔
      ∃ earlier, dictionary.get? key = some earlier ∧ change key earlier = .ok value :=
  lookup_of_forall₂ (traverse_eq_ok_iff.mp changed)

end Changing

end Dictionary

namespace Registry

variable {placeholder : Placeholder} {newLine : Text} {definitions : Dictionary Text} {registry : Registry}

theorem build_eq_ok_iff : build placeholder newLine definitions = .ok registry ↔
    definitions.traverse (fun id body => tokenize placeholder newLine (some id) body) =
      .ok registry.queries := by
  rw [build, map_eq_ok]
  constructor
  · rintro ⟨queries, changed, rfl⟩
    exact changed
  · intro changed
    exact ⟨registry.queries, changed, rfl⟩

/-- The first body that cannot be tokenized says why. -/
theorem build_eq_error_iff {malformation : Malformation} :
    build placeholder newLine definitions = .error malformation ↔
      FirstFailure
        (fun definition cause => tokenize placeholder newLine (some definition.1) definition.2 = .error cause)
        definitions.entries malformation := by
  rw [build, map_eq_error, Dictionary.traverse_eq_error_iff]

/-- The tokens of a query are those of its own body. -/
theorem tokens?_of_build (built : build placeholder newLine definitions = .ok registry) {id : Text}
    {tokens : List Token} :
    registry.tokens? id = some tokens ↔ ∃ body, definitions.get? id = some body ∧
      tokenize placeholder newLine (some id) body = .ok tokens :=
  Dictionary.get?_traverse (build_eq_ok_iff.mp built)

/-- There is a query for each definition. -/
theorem ids_of_build (built : build placeholder newLine definitions = .ok registry) :
    registry.ids = definitions.keys :=
  Dictionary.keys_traverse (build_eq_ok_iff.mp built)

theorem mem_sortedIds {id : Text} : id ∈ registry.sortedIds ↔ id ∈ registry.ids :=
  (List.mergeSort_perm _ _).mem_iff

end Registry

end QueryTemplates
