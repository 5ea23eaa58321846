import Mathlib.Data.List.Perm.Basic
import QueryTemplates.Processor.Sql
import QueryTemplates.Proofs.Results

/-! # Query texts of values

What the SQL processor writes for a collection: the list that nothing belongs to where it has no member,
else a list of the texts of its members, in their own order or, for a set, in another one.
-/

namespace QueryTemplates

/-- What holds of a value as soon as it holds of its members holds of every value. -/
@[elab_as_elim]
theorem Value.induction_on_members {motive : Value → Prop} (value : Value)
    (step : ∀ value : Value, (∀ member ∈ value.members, motive member) → motive value) : motive value :=
  step value fun member _present => induction_on_members member step
termination_by sizeOf value
decreasing_by
  cases value with
  | collection kind members =>
    have smaller : sizeOf member < sizeOf members := List.sizeOf_lt_of_mem _present
    simp only [Value.collection.sizeOf_spec]
    omega
  | _ => exact absurd _present List.not_mem_nil

namespace Sql

open List (Forall₂)

variable {words : Sql} {key id : Text}

theorem formatMembers_eq_map (words : Sql) (key id : Text) (members : List Value) :
    words.formatMembers key id members = members.map (words.format key id) := by
  induction members with
  | nil => rfl
  | cons value rest ih => rw [formatMembers, List.map_cons, ih]

/-- The text of a collection, from those of its members. -/
def collectionText (texts : List Text) : Text := if texts.isEmpty then emptyList else listText texts

/-- The text of a list is made from those of all members, or the first failure among them counts. -/
theorem listOf_eq (outcomes : List (Except RenderFailure Text)) :
    listOf outcomes = (outcomes.mapM fun outcome => outcome).map collectionText := by
  cases outcomes with
  | nil => rfl
  | cons outcome rest =>
    rw [listOf, List.isEmpty_cons, if_neg Bool.false_ne_true]
    change ((outcome :: rest).mapM (fun outcome => outcome) >>= fun texts => .ok (listText texts)) = _
    cases all : (outcome :: rest).mapM (fun outcome => outcome) with
    | error failure => rfl
    | ok texts =>
      cases mapM_eq_ok_iff.mp all with
      | cons one more => rfl

theorem listOf_eq_ok {outcomes : List (Except RenderFailure Text)} {text : Text}
    (written : listOf outcomes = .ok text) :
    ∃ texts, outcomes = texts.map .ok ∧ text = collectionText texts := by
  rw [listOf_eq, map_eq_ok] at written
  obtain ⟨texts, all, rfl⟩ := written
  exact ⟨texts, eq_map_ok_of_mapM all, rfl⟩

/-- The text by which a member is sorted. -/
def sortKey (member : Value) : Text := member.text?.getD []

/-- The plain text of the first value does not come after that of the second. -/
def plainOrder (first second : Value) : Bool := (first.text?.getD []).precedes (second.text?.getD [])

/-- The members of a collection in the order in which they are written. -/
def outputOrder (kind : CollectionKind) (members : List Value) : List Value :=
  if kind.isSet then members.mergeSort plainOrder else members

theorem plainTexts_eq {members : List Value} {keys : List Text}
    (all : members.map Value.plainText = keys.map .ok) :
    keys = members.map sortKey := by
  induction members generalizing keys with
  | nil => exact List.map_eq_nil_iff.mp all.symm
  | cons member rest ih =>
    cases keys with
    | nil => cases all
    | cons key others =>
      obtain ⟨one, more⟩ := List.cons.inj all
      rw [List.map_cons, ← ih more, sortKey, Value.text?, one]
      rfl

/-- The texts of members in the order of their keys are those of the members in this order. -/
theorem inKeyOrder_eq_ok {members : List Value} {write : Value → Except RenderFailure Text}
    {sorted : List (Except RenderFailure Text)}
    (ordered : inKeyOrder (members.map Value.plainText) (members.map write) = .ok sorted) :
    sorted = (members.mergeSort plainOrder).map write := by
  obtain ⟨keys, all, moved⟩ := of_bind_eq_ok ordered
  cases moved
  rw [plainTexts_eq (eq_map_ok_of_mapM all), List.zip_map', ← List.map_mergeSort (r := plainOrder)]
  · simp only [List.map_map, Function.comp_def]
  · exact fun _ _ _ _ => rfl

/-- A collection with a text is a list of the texts of its members, as they come in the output. -/
theorem format_collection_eq_ok {kind : CollectionKind} {members : List Value} {text : Text}
    (written : words.format key id (.collection kind members) = .ok text) :
    ∃ texts, Forall₂ (fun member text => words.format key id member = .ok text)
      (outputOrder kind members) texts ∧ text = collectionText texts := by
  have listed : listOf ((outputOrder kind members).map (words.format key id)) = .ok text := by
    rw [format, formatMembers_eq_map] at written
    split at written
    · next set =>
      obtain ⟨sorted, ordered, listed⟩ := of_bind_eq_ok written
      rw [inKeyOrder_eq_ok ordered] at listed
      rwa [outputOrder, if_pos set]
    · next unsorted => rwa [outputOrder, if_neg unsorted]
  obtain ⟨texts, same, whole⟩ := listOf_eq_ok listed
  rw [← List.forall₂_eq_eq_eq, List.forall₂_map_left_iff, List.forall₂_map_right_iff] at same
  exact ⟨texts, same, whole⟩

theorem outputOrder_perm (kind : CollectionKind) (members : List Value) :
    (outputOrder kind members).Perm members := by
  rw [outputOrder]
  split
  · exact List.mergeSort_perm members plainOrder
  · exact .refl members

/-- A collection with a text is empty, or it is a list of the texts of its members: these come in their
own order unless the collection is a set. -/
theorem format_collection {kind : CollectionKind} {members : List Value} {text : Text}
    (written : words.format key id (.collection kind members) = .ok text) :
    (members = [] ∧ text = emptyList) ∨ ∃ order texts,
      order.Perm members ∧ (kind.isSet = false → order = members) ∧
      Forall₂ (fun member text => words.format key id member = .ok text) order texts ∧
      text = listText texts := by
  obtain ⟨texts, each, rfl⟩ := format_collection_eq_ok written
  have perm := outputOrder_perm kind members
  cases texts with
  | nil =>
    rw [List.forall₂_nil_right_iff.mp each] at perm
    exact .inl ⟨perm.nil_eq.symm, rfl⟩
  | cons first others =>
    refine .inr ⟨_, _, perm, fun ordered => ?_, each, rfl⟩
    rw [outputOrder, ordered, if_neg Bool.false_ne_true]

end Sql

end QueryTemplates
