import Mathlib.Data.List.Forall2
import QueryTemplates.Proofs.Processor.Terms

/-! # Values with the same query text

Two values have the same structure if they are both missing, the same truth value, numbers with the same
text, texts or dates with the same characters, or collections whose members, as they come in the output,
have the same structure one by one. With the standard words the SQL processor writes the same text for
two values exactly when they have the same structure, whatever their strings hold and however deep their
collections are nested.
-/

namespace QueryTemplates

namespace Sql

open List (Forall₂)

/-- The values do not differ in anything that is written. -/
inductive SameStructure : Value → Value → Prop
  | null : SameStructure .null .null
  | truth (value : Bool) : SameStructure (.bool value) (.bool value)
  | number {first second : Value} {text : Text} (first_text : first.numberText? = some (.ok text))
      (second_text : second.numberText? = some (.ok text)) : SameStructure first second
  | characters {first second : Value} {text : Text} (first_text : first.characters? = some (.ok text))
      (second_text : second.characters? = some (.ok text)) : SameStructure first second
  | members {kind other : CollectionKind} {first second : List Value}
      (each : Forall₂ SameStructure (outputOrder kind first) (outputOrder other second)) :
      SameStructure (.collection kind first) (.collection other second)

/-- The term that a value is written as. -/
inductive WrittenAs : Value → Term → Prop
  | null : WrittenAs .null (.word .null)
  | truth (value : Bool) : WrittenAs (.bool value) (.word (.truth value))
  | number {value : Value} {number : NumberText} (text : value.numberText? = some (.ok number.text)) :
      WrittenAs value (.word (.number number))
  | string {value : Value} {text : Text} (characters : value.characters? = some (.ok text)) :
      WrittenAs value (.string text)
  | list {kind : CollectionKind} {members : List Value} {terms : List Term}
      (each : Forall₂ WrittenAs (outputOrder kind members) terms) :
      WrittenAs (.collection kind members) (.list terms)

variable {key id : Text}

/-! ## From values to terms -/

private theorem exists_term_of_number {value : Value} {text : Text}
    (written : value.numberText? = some (.ok text)) : ∃ term, WrittenAs value term ∧ term.text = text := by
  obtain ⟨number, rfl⟩ := exists_numberText written
  exact ⟨_, .number written, rfl⟩

private theorem exists_terms {members : List Value} {texts : List Text}
    (each : Forall₂ (fun member text => ∃ term, WrittenAs member term ∧ term.text = text) members texts) :
    ∃ terms, Forall₂ WrittenAs members terms ∧ Term.texts terms = texts := by
  induction each with
  | nil => exact ⟨[], .nil, rfl⟩
  | cons one _ ih =>
    obtain ⟨term, written, rfl⟩ := one
    obtain ⟨terms, all, rfl⟩ := ih
    exact ⟨term :: terms, .cons written all, rfl⟩

/-- What is written for a value is the text of its term. -/
theorem exists_term {value : Value} {text : Text} (done : standard.format key id value = .ok text) :
    ∃ term, WrittenAs value term ∧ term.text = text := by
  induction value using Value.induction_on_members generalizing text with
  | step value ih =>
    cases value with
    | null =>
      cases done
      exact ⟨_, .null, rfl⟩
    | bool value =>
      cases done
      exact ⟨_, .truth value, rfl⟩
    | int _ | float _ | decimal _ => exact exists_term_of_number (congrArg some done)
    | text _ | date _ | dateTime _ =>
      cases done
      exact ⟨_, .string rfl, rfl⟩
    | zonedTime _ _ =>
      obtain ⟨text, told, rfl⟩ := map_eq_ok.mp done
      exact ⟨_, .string (congrArg some told), rfl⟩
    | collection kind members =>
      obtain ⟨texts, each, rfl⟩ := format_collection_eq_ok done
      have present : ∀ member ∈ outputOrder kind members, member ∈ members :=
        fun _ => (outputOrder_perm kind members).mem_iff.mp
      have both := (List.forall₂_and_left _ _).mpr ⟨present, each⟩
      obtain ⟨terms, written, rfl⟩ :=
        exists_terms (both.imp fun member _ ⟨present, one⟩ => ih member present one)
      exact ⟨_, .list written, rfl⟩
    | record _ | object _ _ _ => cases done

/-! ## Structures and terms -/

mutual

/-- Values that are written as one term have the same structure. -/
theorem WrittenAs.sameStructure {first second : Value} : (term : Term) → WrittenAs first term →
    WrittenAs second term → SameStructure first second
  | .word .null, .null, .null => .null
  | .word (.truth _), .truth value, .truth _ => .truth value
  | .word (.number _), .number first_text, .number second_text => .number first_text second_text
  | .string _, .string first_text, .string second_text => .characters first_text second_text
  | .list terms, .list first_each, .list second_each =>
    .members (sameStructure_members terms first_each second_each)

theorem WrittenAs.sameStructure_members {first second : List Value} : (terms : List Term) →
    Forall₂ WrittenAs first terms → Forall₂ WrittenAs second terms → Forall₂ SameStructure first second
  | [], .nil, .nil => .nil
  | term :: rest, .cons one more, .cons other others =>
    .cons (one.sameStructure term other) (sameStructure_members rest more others)

end

theorem characters?_of_number {value : Value} {outcome : Except RenderFailure Text}
    (number : value.numberText? = some outcome) : value.characters? = none := by
  cases value <;> first | rfl | cases number

/-- A number is written as its text. -/
theorem WrittenAs.of_number {value : Value} {text : Text} {term : Term}
    (number : value.numberText? = some (.ok text)) (written : WrittenAs value term) :
    ∃ number : NumberText, number.text = text ∧ term = .word (.number number) := by
  cases written with
  | number own =>
    rw [own] at number
    cases number
    exact ⟨_, rfl, rfl⟩
  | string characters =>
    rw [characters?_of_number number] at characters
    cases characters
  | _ => cases number

/-- A text or a date is written as the string of its characters. -/
theorem WrittenAs.of_characters {value : Value} {text : Text} {term : Term}
    (characters : value.characters? = some (.ok text)) (written : WrittenAs value term) : term = .string text := by
  cases written with
  | number number =>
    rw [characters?_of_number number] at characters
    cases characters
  | string own =>
    rw [own] at characters
    cases characters
    rfl
  | _ => cases characters

theorem WrittenAs.of_null {term : Term} (written : WrittenAs .null term) : term = .word .null := by
  cases written with
  | null => rfl
  | number number => cases number
  | string characters => cases characters

theorem WrittenAs.of_bool {value : Bool} {term : Term} (written : WrittenAs (.bool value) term) :
    term = .word (.truth value) := by
  cases written with
  | truth => rfl
  | number number => cases number
  | string characters => cases characters

theorem WrittenAs.of_collection {kind : CollectionKind} {members : List Value} {term : Term}
    (written : WrittenAs (.collection kind members) term) :
    ∃ terms, Forall₂ WrittenAs (outputOrder kind members) terms ∧ term = .list terms := by
  cases written with
  | list each => exact ⟨_, each, rfl⟩
  | number number => cases number
  | string characters => cases characters

mutual

/-- Values of the same structure are written as one term. -/
theorem WrittenAs.unique {first second : Value} {other : Term} : (term : Term) → WrittenAs first term →
    WrittenAs second other → SameStructure first second → term = other
  | _, written, written', .null => written.of_null.trans written'.of_null.symm
  | _, written, written', .truth _ => written.of_bool.trans written'.of_bool.symm
  | _, written, written', .number first_text second_text => by
    obtain ⟨number, rfl, rfl⟩ := written.of_number first_text
    obtain ⟨other, same, rfl⟩ := written'.of_number second_text
    rw [NumberText.ext same]
  | _, written, written', .characters first_text second_text =>
    (written.of_characters first_text).trans (written'.of_characters second_text).symm
  | .list terms, .list each, written', .members members => by
    obtain ⟨others, each', rfl⟩ := written'.of_collection
    rw [unique_members terms each each' members]

theorem WrittenAs.unique_members {first second : List Value} {others : List Term} : (terms : List Term) →
    Forall₂ WrittenAs first terms → Forall₂ WrittenAs second others → Forall₂ SameStructure first second →
    terms = others
  | [], .nil, .nil, .nil => rfl
  | term :: rest, .cons one more, .cons one' more', .cons same others => by
    rw [one.unique term one' same, unique_members rest more more' others]

end

/-! ## Texts -/

/-- Values that the SQL processor accepts have the same text exactly when they have the same structure. -/
theorem text_eq_iff_sameStructure {key id key' id' : Text} {first second : Value} {text other : Text}
    (written : standard.format key id first = .ok text)
    (written' : standard.format key' id' second = .ok other) : text = other ↔ SameStructure first second := by
  obtain ⟨term, made, rfl⟩ := exists_term written
  obtain ⟨term', made', rfl⟩ := exists_term written'
  constructor
  · intro same
    obtain rfl := Term.text_injective same
    exact made.sameStructure term made'
  · intro same
    rw [made.unique term made' same]

/-- A set has the structure of a tuple with its members in order, while a string that looks like two
members of a list is only one of them. -/
theorem text_eq_iff_sameStructure_imitation :
    let set := Value.collection .set [.text "b, NULL".toList, .text "a'), (".toList]
    let tuple := Value.collection .tuple [.text "a'), (".toList, .text "b, NULL".toList]
    let one := Value.list [.text "1', '2".toList]
    let two := Value.list [.text ['1'], .text ['2']]
    standard.format [] [] set = .ok "('a''), (', 'b, NULL')".toList ∧
      standard.format [] [] tuple = .ok "('a''), (', 'b, NULL')".toList ∧
      standard.format [] [] one = .ok "('1'', ''2')".toList ∧
      standard.format [] [] two = .ok "('1', '2')".toList ∧
      SameStructure set tuple ∧ ¬ SameStructure one two := by
  intro set tuple one two
  let texts : List (Text × Except RenderFailure Text) :=
    [("b, NULL".toList, .ok "'b, NULL'".toList), ("a'), (".toList, .ok "'a''), ('".toList)]
  have sorted : texts.mergeSort (fun first second => Text.precedes first.1 second.1) = texts.reverse := by
    simp [texts, List.mergeSort, Text.precedes]
  have set_text : standard.format [] [] set = .ok "('a''), (', 'b, NULL')".toList :=
    congrArg (fun pairs : List (Text × Except RenderFailure Text) => listOf (pairs.map Prod.snd)) sorted
  have tuple_text : standard.format [] [] tuple = .ok "('a''), (', 'b, NULL')".toList := by decide +kernel
  have one_text : standard.format [] [] one = .ok "('1'', ''2')".toList := by decide +kernel
  have two_text : standard.format [] [] two = .ok "('1', '2')".toList := by decide +kernel
  refine ⟨set_text, tuple_text, one_text, two_text, ?_, ?_⟩
  · exact (text_eq_iff_sameStructure set_text tuple_text).mp rfl
  · rw [← text_eq_iff_sameStructure one_text two_text]
    decide

end Sql

end QueryTemplates
