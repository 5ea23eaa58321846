import Mathlib.Data.List.Sort
import Mathlib.Data.Char
import QueryTemplates.Text.Basic

/-! # The order of texts

Texts are ordered by code points, and no two different texts precede each other. What is sorted by this
order therefore does not depend on the order in which it was given, and different texts come out strictly
increasing.
-/

namespace QueryTemplates.Text

theorem precedes_total (first second : Text) : (precedes first second || precedes second first) = true := by
  fun_induction precedes first second with
  | case1 => rfl
  | case2 c first => simp [precedes]
  | case3 first d second ih => simpa [precedes] using ih
  | case4 c first d second different =>
    rcases lt_or_gt_of_ne different with less | greater
    · simp [less]
    · simp [precedes, Ne.symm different, greater]

theorem precedes_antisymm {first second : Text} (before : precedes first second = true)
    (after : precedes second first = true) : first = second := by
  fun_induction precedes first second with
  | case1 second =>
    cases second with
    | nil => rfl
    | cons d second => cases after
  | case2 => cases before
  | case3 first d second ih =>
    rw [precedes, if_pos rfl] at after
    rw [ih before after]
  | case4 c first d second different =>
    rw [precedes, if_neg (Ne.symm different), decide_eq_true_iff] at after
    exact absurd (of_decide_eq_true before) (lt_asymm after)

theorem precedes_trans {first second third : Text} (before : precedes first second = true)
    (after : precedes second third = true) : precedes first third = true := by
  fun_induction precedes first second generalizing third with
  | case1 second => rfl
  | case2 => cases before
  | case3 first d second ih =>
    cases third with
    | nil => cases after
    | cons e third =>
      by_cases same : d = e
      · rw [precedes, if_pos same] at after ⊢
        exact ih before after
      · rw [precedes, if_neg same] at after ⊢
        exact after
  | case4 c first d second different =>
    have less := of_decide_eq_true before
    cases third with
    | nil => cases after
    | cons e third =>
      have below : c < e := by
        by_cases same : d = e
        · exact same ▸ less
        · rw [precedes, if_neg same, decide_eq_true_iff] at after
          exact lt_trans less after
      rw [precedes, if_neg (ne_of_lt below), decide_eq_true_iff]
      exact below

/-- Of two different texts, the one that precedes the other is less than it, code point by code point. -/
theorem lt_of_precedes {first second : Text} (before : precedes first second = true)
    (different : first ≠ second) : first < second := by
  fun_induction precedes first second with
  | case1 second =>
    obtain ⟨c, rest, rfl⟩ := List.exists_cons_of_ne_nil (Ne.symm different)
    exact List.nil_lt_cons c rest
  | case2 => cases before
  | case3 first d second ih =>
    have others : first ≠ second := fun same => different (congrArg (d :: ·) same)
    exact List.cons_lt_cons_iff.mpr (.inr ⟨rfl, ih before others⟩)
  | case4 c first d second => exact List.cons_lt_cons_iff.mpr (.inl (of_decide_eq_true before))

theorem pairwise_precedes_mergeSort (texts : List Text) :
    (texts.mergeSort precedes).Pairwise fun first second => precedes first second = true := by
  apply List.pairwise_mergeSort
  · intro first second third before after
    exact precedes_trans before after
  · exact precedes_total

/-- Different texts are strictly increasing when they are sorted. -/
theorem pairwise_lt_mergeSort {texts : List Text} (distinct : texts.Nodup) :
    (texts.mergeSort precedes).Pairwise (· < ·) := by
  have sorted_distinct : (texts.mergeSort precedes).Nodup := (List.mergeSort_perm texts _).nodup_iff.mpr distinct
  exact (pairwise_precedes_mergeSort texts).imp₂ (fun _ _ => lt_of_precedes) sorted_distinct

/-- Sorted texts do not depend on the order in which they were given. -/
theorem mergeSort_eq_of_perm {first second : List Text} (same : first.Perm second) :
    first.mergeSort precedes = second.mergeSort precedes := by
  refine List.Perm.eq_of_pairwise (fun _ _ _ _ => precedes_antisymm) (pairwise_precedes_mergeSort first)
    (pairwise_precedes_mergeSort second) ?_
  exact (List.mergeSort_perm _ _).trans (same.trans (List.mergeSort_perm _ _).symm)

end QueryTemplates.Text
