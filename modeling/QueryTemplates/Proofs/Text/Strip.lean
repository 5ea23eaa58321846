import Mathlib.Data.List.DropRight
import Mathlib.Data.List.TakeWhile
import QueryTemplates.Text.Basic

/-! # Taking away at both ends

What is left of a list when members of one kind are taken away at its two ends, as long as there are any: a
text without white space around it, or lines without blank lines around them. Nothing of this kind is left
at the ends, and there is no other way to leave nothing there.
-/

namespace QueryTemplates

variable {α : Type} {p : α → Bool} {kept leading trailing : List α}

/-- The list without the members of the given kind at its two ends. -/
def strip (p : α → Bool) (members : List α) : List α := (members.dropWhile p).rdropWhile p

/-- The list neither begins nor ends with a member of the given kind. -/
def FreeAtEnds (p : α → Bool) (members : List α) : Prop :=
  (∀ member ∈ members.head?, p member = false) ∧ ∀ member ∈ members.getLast?, p member = false

theorem exists_around_strip (p : α → Bool) (members : List α) : ∃ leading trailing,
    members = leading ++ strip p members ++ trailing ∧
      (∀ member ∈ leading ++ trailing, p member = true) ∧ FreeAtEnds p (strip p members) := by
  have inner : strip p members ++ (members.dropWhile p).rtakeWhile p = members.dropWhile p :=
    List.rdropWhile_append_rtakeWhile ..
  refine ⟨members.takeWhile p, (members.dropWhile p).rtakeWhile p, ?_, ?_, ?_, ?_⟩
  · rw [List.append_assoc, inner, List.takeWhile_append_dropWhile]
  · intro member present
    rcases List.mem_append.mp present with before | after
    · exact List.mem_takeWhile_imp before
    · exact List.mem_rtakeWhile_imp after
  · intro member first
    have free := List.head?_dropWhile_not p members
    rw [← inner, List.head?_append, Option.mem_def.mp first] at free
    simpa using free
  · intro member last
    have some_member : strip p members ≠ [] := by
      intro none_left
      rw [none_left] at last
      cases last
    have free := List.rdropWhile_last_not p _ some_member
    rw [Option.mem_def, List.getLast?_eq_some_getLast some_member, Option.some.injEq] at last
    rw [← last]
    exact Bool.eq_false_iff.mpr free

theorem dropWhile_of_head_free (free : ∀ member ∈ kept.head?, p member = false) :
    kept.dropWhile p = kept := by
  cases kept with
  | nil => rfl
  | cons member rest => exact List.dropWhile_cons_of_neg (Bool.eq_false_iff.mp (free member rfl))

/-- What is left is the part that is free at its ends, between members of the given kind. -/
theorem strip_around (around : ∀ member ∈ leading ++ trailing, p member = true)
    (free : FreeAtEnds p kept) : strip p (leading ++ kept ++ trailing) = kept := by
  obtain ⟨before, after⟩ := List.forall_mem_append.mp around
  rw [strip, List.append_assoc, List.dropWhile_append_of_pos before]
  by_cases none_kept : kept = []
  · have nothing : trailing.dropWhile p = [] := List.dropWhile_eq_nil_iff.mpr after
    rw [none_kept, List.nil_append, nothing]
    rfl
  · have first : (kept ++ trailing).dropWhile p = kept ++ trailing := by
      apply dropWhile_of_head_free
      rw [List.head?_append_of_ne_nil _ none_kept]
      exact free.1
    have behind : ∀ member ∈ trailing.reverse, p member = true := fun member present =>
      after member (List.mem_reverse.mp present)
    have last : kept.reverse.dropWhile p = kept.reverse := by
      apply dropWhile_of_head_free
      rw [List.head?_reverse]
      exact free.2
    rw [first, List.rdropWhile, List.reverse_append, List.dropWhile_append_of_pos behind, last,
      List.reverse_reverse]

theorem strip_of_freeAtEnds (free : FreeAtEnds p kept) : strip p kept = kept := by
  have whole := @strip_around _ p kept [] [] (fun member absent => absurd absent List.not_mem_nil) free
  rwa [List.nil_append, List.append_nil] at whole

theorem freeAtEnds_strip (p : α → Bool) (members : List α) : FreeAtEnds p (strip p members) := by
  obtain ⟨-, -, -, -, free⟩ := exists_around_strip p members
  exact free

theorem mem_of_mem_strip {members : List α} {member : α} (left : member ∈ strip p members) :
    member ∈ members := by
  obtain ⟨leading, trailing, whole, -⟩ := exists_around_strip p members
  rw [whole]
  exact List.mem_append_left _ (List.mem_append_right _ left)

theorem all_strip (p : α → Bool) (members : List α) : (strip p members).all p = members.all p := by
  obtain ⟨leading, trailing, whole, around, -⟩ := exists_around_strip p members
  obtain ⟨before, after⟩ := List.forall_mem_append.mp around
  conv_rhs => rw [whole]
  rw [List.all_append, List.all_append, List.all_eq_true.mpr before, List.all_eq_true.mpr after]
  simp

namespace Text

theorem trim_eq_strip (text : Text) : text.trim = strip Character.isBlank text := rfl

theorem isBlank_trim (text : Text) : text.trim.isBlank = text.isBlank := by
  rw [trim_eq_strip]
  exact all_strip _ text

theorem trim_trim (text : Text) : text.trim.trim = text.trim := by
  rw [trim_eq_strip]
  exact strip_of_freeAtEnds (freeAtEnds_strip _ text)

end Text

end QueryTemplates
