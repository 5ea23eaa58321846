import QueryTemplates.Text.Basic

/-! # Dictionaries

A dictionary gives values to texts, each text at most once, and remembers the order in which the texts
were first put. Putting a value for a text that is there replaces its value and keeps its place.
-/

namespace QueryTemplates

/-- Values for texts, in the order in which the texts were first put. -/
structure Dictionary (α : Type) where
  entries : List (Text × α)
  nodup : (entries.map (·.1)).Nodup

namespace Dictionary

variable {α β ε κ : Type}

/-- Replaces the value of a key, or puts a new entry at the end. -/
def putEntry [DecidableEq κ] (key : κ) (value : α) : List (κ × α) → List (κ × α)
  | [] => [(key, value)]
  | (other, earlier) :: rest =>
    if other = key then (key, value) :: rest else (other, earlier) :: putEntry key value rest

theorem mem_keys_putEntry [DecidableEq κ] {key other : κ} {value : α} {entries : List (κ × α)}
    (member : other ∈ (putEntry key value entries).map (·.1)) :
    other = key ∨ other ∈ entries.map (·.1) := by
  induction entries with
  | nil => simpa [putEntry] using member
  | cons entry rest ih =>
    obtain ⟨first, earlier⟩ := entry
    by_cases same : first = key
    · simp only [putEntry, same, if_true, List.map_cons, List.mem_cons] at member ⊢
      exact member.imp_right .inr
    · simp only [putEntry, same, if_false, List.map_cons, List.mem_cons] at member ⊢
      rcases member with rfl | member
      · exact .inr (.inl rfl)
      · exact (ih member).imp_right .inr

theorem nodup_putEntry [DecidableEq κ] {key : κ} {value : α} {entries : List (κ × α)}
    (nodup : (entries.map (·.1)).Nodup) : ((putEntry key value entries).map (·.1)).Nodup := by
  induction entries with
  | nil => simp [putEntry]
  | cons entry rest ih =>
    obtain ⟨first, earlier⟩ := entry
    simp only [List.map_cons, List.nodup_cons] at nodup
    by_cases same : first = key
    · subst same
      simpa [putEntry] using nodup
    · simp only [putEntry, same, if_false, List.map_cons, List.nodup_cons]
      refine ⟨fun member => ?_, ih nodup.2⟩
      rcases mem_keys_putEntry member with rfl | member
      · exact same rfl
      · exact nodup.1 member

/-- No entries. -/
def empty : Dictionary α := ⟨[], List.nodup_nil⟩

/-- The dictionary with a value for the text. -/
def put (dictionary : Dictionary α) (key : Text) (value : α) : Dictionary α :=
  ⟨putEntry key value dictionary.entries, nodup_putEntry dictionary.nodup⟩

/-- The value of a text. -/
def get? (dictionary : Dictionary α) (key : Text) : Option α := dictionary.entries.lookup key

/-- The texts in order. -/
def keys (dictionary : Dictionary α) : List Text := dictionary.entries.map (·.1)

/-- The number of entries. -/
def size (dictionary : Dictionary α) : Nat := dictionary.entries.length

/-- The texts in the order by code points. -/
def sortedKeys (dictionary : Dictionary α) : List Text := dictionary.keys.mergeSort Text.precedes

/-- The dictionary of entries that are put one after another. -/
def ofList (entries : List (Text × α)) : Dictionary α :=
  entries.foldl (fun dictionary (key, value) => dictionary.put key value) empty

/-- The dictionary with each value changed. -/
def mapValues (change : α → β) (dictionary : Dictionary α) : Dictionary β :=
  ⟨dictionary.entries.map fun (key, value) => (key, change value), by
    simpa [Function.comp_def] using dictionary.nodup⟩

/-- Changes the values of entries in order, up to the first failure. -/
def changeEntries (change : Text → α → Except ε β) :
    List (Text × α) → Except ε (List (Text × β))
  | [] => .ok []
  | (key, value) :: rest =>
    match change key value with
    | .error failure => .error failure
    | .ok changed =>
      match changeEntries change rest with
      | .error failure => .error failure
      | .ok done => .ok ((key, changed) :: done)

theorem keys_of_changeEntries {change : Text → α → Except ε β} {entries : List (Text × α)}
    {done : List (Text × β)} (changed : changeEntries change entries = .ok done) :
    done.map (·.1) = entries.map (·.1) := by
  induction entries generalizing done with
  | nil => cases changed; rfl
  | cons entry rest ih =>
    simp only [changeEntries] at changed
    split at changed
    · cases changed
    · split at changed
      · cases changed
      · next later => cases changed; simp [ih later]

/-- Changes the values in order, up to the first failure. -/
def traverse (change : Text → α → Except ε β) (dictionary : Dictionary α) :
    Except ε (Dictionary β) :=
  match changed : changeEntries change dictionary.entries with
  | .error failure => .error failure
  | .ok done => .ok ⟨done, by rw [keys_of_changeEntries changed]; exact dictionary.nodup⟩

end Dictionary

end QueryTemplates
