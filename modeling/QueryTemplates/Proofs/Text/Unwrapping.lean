import Mathlib.Data.List.DropRight
import QueryTemplates.Proofs.Text.Delimiter

/-! # Unwrapping texts

A wrapped text tells which text it was made of: without the delimiters at its two ends, and with one delimiter
in place of each two that stand together, it is that text again. This holds of every delimiter, also of one
that overlaps itself, where a reader that looks for the closing delimiter may stop too early.
-/

namespace QueryTemplates.Text

/-- A wrapped text without the delimiters at its two ends, and with one delimiter in place of two. -/
def unwrap (delimiter text : Text) : Text :=
  replace (delimiter ++ delimiter) delimiter ((text.drop delimiter.length).rdrop delimiter.length)

variable {delimiter : Text}

/-- Two delimiters begin in a doubled text only where one begins in the text. -/
theorem not_pair_prefix_cons_double (some_delimiter : delimiter ≠ []) {c : Char} {rest : Text}
    (plain : ¬ delimiter <+: c :: rest) : ¬ delimiter ++ delimiter <+: c :: double delimiter rest := by
  intro pair
  have begins := prefix_cons_double_append_iff some_delimiter c rest []
  simp only [List.append_nil] at begins
  exact plain (begins.mp ((List.prefix_append delimiter delimiter).trans pair))

/-- Putting one delimiter in place of two undoes doubling. -/
theorem replace_double (some_delimiter : delimiter ≠ []) (text : Text) :
    replace (delimiter ++ delimiter) delimiter (double delimiter text) = text := by
  have some_pair : delimiter ++ delimiter ≠ [] := List.append_ne_nil_of_left_ne_nil some_delimiter delimiter
  induction text using delimiter_induction some_delimiter with
  | nil => rfl
  | found rest ih => rw [double_delimiter_append some_delimiter, replace_append some_pair, ih]
  | plain c rest plain ih =>
    rw [double_cons plain, replace_cons (not_pair_prefix_cons_double some_delimiter plain), ih]

/-- What stands between the delimiters of a wrapped text is the doubled text. -/
theorem rdrop_drop_wrap (some_delimiter : delimiter ≠ []) (text : Text) :
    ((wrap delimiter text).drop delimiter.length).rdrop delimiter.length = double delimiter text := by
  rw [wrap, if_neg (by simpa using some_delimiter), List.append_assoc, List.drop_left, List.rdrop_append_length]

/-- Whatever the delimiter, unwrapping a wrapped text gives the text back, so that different texts are wrapped
differently. -/
theorem unwrap_wrap (some_delimiter : delimiter ≠ []) :
    (∀ text, unwrap delimiter (wrap delimiter text) = text) ∧ Function.Injective (wrap delimiter) := by
  have back (text : Text) : unwrap delimiter (wrap delimiter text) = text := by
    rw [unwrap, rdrop_drop_wrap some_delimiter, replace_double some_delimiter]
  exact ⟨back, Function.LeftInverse.injective back⟩

/-- Doubling a delimiter that overlaps itself makes new occurrences of it across the seams. -/
theorem unwrap_wrap_overlapping : "aba".toList ≠ [] ∧
    wrap "aba".toList "abababa".toList = "abaabaabababaabaaba".toList ∧
    unwrap "aba".toList "abaabaabababaabaaba".toList = "abababa".toList ∧
    wrap "aba".toList "abababa".toList ≠ wrap "aba".toList "ababa".toList := by
  have some_delimiter : "aba".toList ≠ [] := by decide
  have wrapped : wrap "aba".toList "abababa".toList = "abaabaabababaabaaba".toList := by decide
  obtain ⟨back, injective⟩ := unwrap_wrap some_delimiter
  refine ⟨some_delimiter, wrapped, ?_, injective.ne (by decide)⟩
  rw [← wrapped]
  exact back _

end QueryTemplates.Text
