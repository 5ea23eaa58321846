import QueryTemplates.Proofs.Pattern.Span
import QueryTemplates.Proofs.Template.Source

/-! # The standard placeholder

The standard pattern finds a dollar sign and text in braces, and its group is the text between them. It
matches wherever a reference stands, and the match ends at the first closing brace.
-/

namespace QueryTemplates.Placeholder

open Pattern

/-- The test for one character. -/
def exactly (c : Char) : CharTest := ⟨false, [.code c.toNat], false, false⟩

/-- The test for all other characters. -/
def allBut (c : Char) : CharTest := ⟨true, [.code c.toNat], false, false⟩

/-- The placeholder that the standard pattern stands for. -/
def standard : Placeholder where
  node := .seq (.one (exactly '$')) (.seq (.one (exactly '\x7b'))
    (.seq (.group 1 (.span (allBut '\x7d') 0 none .greedy)) (.one (exactly '\x7d'))))
  groups := 1
  groups_pos := Nat.one_pos
  not_matchesEmpty := by decide +kernel

theorem compile_standardText : compile standardText = .ok standard := by decide +kernel

/-! ## Tests of one character -/

theorem exactly_accepts {c d : Char} : (exactly c).accepts d = true ↔ d = c := by
  simp [exactly, CharTest.accepts, CharTest.exactly, Char.toNat_inj]

theorem allBut_accepts {c d : Char} : (allBut c).accepts d = true ↔ d ≠ c := by
  simp [allBut, CharTest.accepts, CharTest.exactly, Char.toNat_inj]

theorem dropWhile_allBut {c : Char} {content : Text} (absent : c ∉ content) (rest : Text) :
    (content ++ c :: rest).dropWhile (allBut c).accepts = c :: rest := by
  rw [List.dropWhile_append_of_pos, List.dropWhile_cons_of_neg]
  · simp [allBut_accepts]
  · rintro d member
    rw [allBut_accepts]
    rintro rfl
    exact absent member

variable {line : Text}

theorem run_exactly {c : Char} {progress : Progress line} {later : Cursor line}
    (next : progress.cursor.next? = some (c, later)) (proceed : Continuation line) :
    (Node.one (exactly c)).run progress proceed = proceed (progress.moveTo later) := by
  simp [Node.run, next, exactly_accepts]

theorem of_run_exactly {c : Char} {progress result : Progress line} {proceed : Continuation line}
    (run : (Node.one (exactly c)).run progress proceed = some result) :
    ∃ later : Cursor line, progress.cursor.after = c :: later.after ∧
      proceed (progress.moveTo later) = some result := by
  cases ahead : progress.cursor.after with
  | nil => simp [Node.run, Cursor.next?_eq_none ahead] at run
  | cons d rest =>
    obtain ⟨later, next, rfl⟩ := Cursor.exists_next? ahead
    simp only [Node.run, next, exactly_accepts] at run
    split at run
    · next same => exact ⟨later, by rw [same], run⟩
    · cases run

/-! ## Matches -/

/-- A reference stands at the start of the text; its content ends at the first closing brace. -/
def StartsWithReference (text : Text) : Prop :=
  ∃ content rest, '\x7d' ∉ content ∧ text = Token.reference content ++ rest

theorem run_standard (progress : Progress line) (proceed : Continuation line) :
    standard.node.run progress proceed =
      (Node.one (exactly '$')).run progress fun second =>
        (Node.one (exactly '\x7b')).run second fun inner =>
          (spanEnds (allBut '\x7d') 0 none inner.cursor []).findSome? fun place =>
            (Node.one (exactly '\x7d')).run (((inner.beginGroup 1).moveTo place).endGroup 1) proceed := by
  simp only [standard, Node.run, matchSpan, Progress.beginGroup, Progress.moveTo]

/-- The standard pattern matches a reference. -/
theorem matchAt?_reference {cursor : Cursor line} {content rest : Text} (open_content : '\x7d' ∉ content)
    (ahead : cursor.after = Token.reference content ++ rest) :
    ∃ last, standard.node.matchAt? cursor = some last ∧ last.cursor.after = rest ∧
      last.recorded? 1 = some content := by
  have marked : cursor.after = '$' :: '\x7b' :: (content ++ '\x7d' :: rest) := by
    simpa [Token.reference] using ahead
  obtain ⟨second, next_second, after_second⟩ := Cursor.exists_next? marked
  obtain ⟨inner, next_inner, after_inner⟩ := Cursor.exists_next? after_second
  -- the group ends at the first closing brace, since the span goes as far as it can
  obtain ⟨closing, furthest, after_closing⟩ := spanEnds_head? (allBut '\x7d') inner []
  obtain ⟨nearer, ends⟩ := List.head?_eq_some_iff.mp furthest
  rw [after_inner, dropWhile_allBut open_content] at after_closing
  obtain ⟨outer, next_outer, after_outer⟩ := Cursor.exists_next? after_closing
  have grouped : inner.textTo closing = content := by
    apply Cursor.textTo_eq
    rw [after_inner, after_closing]
  have order : closing.room ≤ inner.room := by
    apply Cursor.room_le_of_suffix
    exact ⟨content, by rw [after_inner, after_closing]⟩
  refine ⟨⟨outer, [(1, inner)], [(1, closing)]⟩, ?_, after_outer, ?_⟩
  · rw [Node.matchAt?, run_standard, run_exactly next_second, run_exactly next_inner]
    simp only [Progress.moveTo, ends, List.findSome?_cons]
    rw [run_exactly next_outer]
    rfl
  · simp [Progress.recorded?, order, grouped]

/-- The standard pattern matches nothing but references. -/
theorem startsWithReference_of_matchAt? {cursor : Cursor line} {last : Progress line}
    (found : standard.node.matchAt? cursor = some last) : StartsWithReference cursor.after := by
  rw [Node.matchAt?, run_standard] at found
  obtain ⟨second, (dollar : cursor.after = '$' :: second.after), found⟩ := of_run_exactly found
  obtain ⟨inner, (brace : second.after = '\x7b' :: inner.after), found⟩ := of_run_exactly found
  obtain ⟨closing, member, found⟩ := List.exists_of_findSome?_eq_some found
  obtain ⟨outer, (ended : closing.after = '\x7d' :: outer.after), -⟩ := of_run_exactly found
  have order : closing.room ≤ inner.room :=
    (spanEnds_room closing member).resolve_right List.not_mem_nil
  have closed : '\x7d' ∈ inner.after :=
    (Cursor.suffix_of_room_le order).mem (by rw [ended]; exact List.mem_cons_self ..)
  obtain ⟨content, rest, split, open_content⟩ := List.eq_append_cons_of_mem closed
  refine ⟨content, rest, open_content, ?_⟩
  rw [dollar, brace, split]
  simp [Token.reference]

/-- A reference is the first occurrence, and the next ones are looked for behind it. -/
theorem occurrencesFrom_reference {cursor : Cursor line} {content rest : Text}
    (open_content : '\x7d' ∉ content) (ahead : cursor.after = Token.reference content ++ rest) :
    ∃ occurrence, standard.node.occurrencesFrom cursor =
        occurrence :: standard.node.occurrencesFrom occurrence.last ∧
      occurrence.first = cursor ∧ occurrence.last.after = rest ∧ occurrence.last.room < cursor.room ∧
      occurrence.text = Token.reference content ∧ occurrence.content = some content := by
  obtain ⟨last, found, rfl, recorded⟩ := matchAt?_reference open_content ahead
  have fewer : last.cursor.room < cursor.room := by
    have size := congrArg List.length ahead
    rw [List.length_append, cursor.room_eq, last.cursor.room_eq] at size
    have some_reference : 0 < (Token.reference content).length := by simp [Token.reference]
    omega
  exact ⟨last.occurrence cursor, Node.occurrencesFrom_of_match found fewer, rfl, rfl, fewer,
    Cursor.textTo_eq ahead, recorded⟩

end QueryTemplates.Placeholder
