import QueryTemplates.Proofs.Number.Characters
import QueryTemplates.Proofs.Processor.Sql
import QueryTemplates.Proofs.Quotes.Reading

/-! # The terms of query texts

What the SQL processor writes is the text of a term: a word, a string or a list of terms. The text of a
term never goes on as that of another one where a term can end, so that the text determines the term and
all the terms in it, though strings may hold quotes, commas, parentheses and the words of other terms, and
lists nest without bound. Hence values have the same text exactly when they have the same structure.
-/

namespace QueryTemplates

namespace Sql

open List (Forall₂)

/-- A text that a number can have. -/
@[ext]
structure NumberText where
  text : Text
  characters : OfNumberCharacters text
  other : HasOther text

/-- What is written without quotes and parentheses. -/
inductive Word
  | null
  | truth (value : Bool)
  | number (number : NumberText)

/-- What a query text is written from. -/
inductive Term
  | word (word : Word)
  | string (characters : Text)
  | list (members : List Term)

/-- The query text of a word. -/
def Word.text : Word → Text
  | .null => nullText
  | .truth value => if value then standard.trueWord else standard.falseWord
  | .number value => value.text

mutual

/-- The query text of a term. -/
def Term.text : Term → Text
  | .word w => w.text
  | .string characters => Text.wrap ['\''] characters
  | .list members => collectionText (Term.texts members)

/-- The query texts of terms. -/
def Term.texts : List Term → List Text
  | [] => []
  | term :: rest => term.text :: Term.texts rest

end

/-- A term can end in front of the text: it is empty or goes on with a comma or a closing parenthesis. -/
def Ended (rest : Text) : Prop := ∀ c, rest.head? = some c → c = ',' ∨ c = ')'

/-! ## Words -/

/-- What is written for a number is such a text. -/
theorem exists_numberText {value : Value} {text : Text} (written : value.numberText? = some (.ok text)) :
    ∃ number : NumberText, number.text = text := by
  cases value with
  | int i =>
    have converted := Value.intText_eq_ok.mp (Option.some.inj written)
    exact ⟨⟨text, Numeral.ofInt?_characters converted, Numeral.ofInt?_hasOther converted⟩, rfl⟩
  | float value =>
    cases written
    exact ⟨⟨value.text, value.text_characters, value.text_hasOther⟩, rfl⟩
  | decimal value =>
    cases written
    exact ⟨⟨value.text, value.text_characters, value.text_hasOther⟩, rfl⟩
  | _ => cases written

theorem Word.characters (word : Word) : OfNumberCharacters word.text := by
  cases word with
  | null => exact .of_all (by decide)
  | truth value => cases value <;> exact .of_all (by decide)
  | number value => exact value.characters

theorem Word.text_ne_nil (word : Word) : word.text ≠ [] := by
  cases word with
  | null => decide
  | truth value => cases value <;> decide
  | number value =>
    obtain ⟨c, member, -⟩ := value.other
    exact List.ne_nil_of_mem member

/-- A number is none of the other words, which are in capital letters. -/
theorem Word.eq_number {word : Word} {value : NumberText} (same : word.text = value.text) :
    word = .number value := by
  have other : HasOther word.text := same ▸ value.other
  cases word with
  | null => exact absurd other (by decide)
  | truth truth => cases truth <;> exact absurd other (by decide)
  | number own => rw [NumberText.ext (x := own) same]

theorem Word.text_injective {first second : Word} (same : first.text = second.text) : first = second := by
  cases second with
  | number value => exact eq_number same
  | null =>
    cases first with
    | null => rfl
    | truth value => cases value <;> exact absurd same (by decide)
    | number value => exact (eq_number same.symm).symm
  | truth value =>
    cases first with
    | null => cases value <;> exact absurd same (by decide)
    | truth other => cases value <;> cases other <;> first | rfl | exact absurd same (by decide)
    | number value => exact (eq_number same.symm).symm

theorem takeWhile_of_ended {rest : Text} (ended : Ended rest) : rest.takeWhile isNumberCharacter = [] := by
  cases rest with
  | nil => rfl
  | cons c rest =>
    rw [List.takeWhile_cons_of_neg]
    rcases ended c rfl with rfl | rfl <;> decide

theorem Word.takeWhile_append (word : Word) {rest : Text} (ended : Ended rest) :
    (word.text ++ rest).takeWhile isNumberCharacter = word.text := by
  rw [List.takeWhile_append_of_pos word.characters, takeWhile_of_ended ended, List.append_nil]

theorem Word.append_inj {first second : Word} {rest left : Text} (rest_ended : Ended rest)
    (left_ended : Ended left) (same : first.text ++ rest = second.text ++ left) :
    first = second ∧ rest = left := by
  have equal : first.text = second.text := by
    rw [← first.takeWhile_append rest_ended, same, second.takeWhile_append left_ended]
  rw [equal] at same
  exact ⟨Word.text_injective equal, List.append_cancel_left same⟩

/-! ## Strings -/

theorem string_append_inj {first second rest left : Text} (rest_ended : Ended rest)
    (left_ended : Ended left) (same : Text.wrap ['\''] first ++ rest = Text.wrap ['\''] second ++ left) :
    first = second ∧ rest = left := by
  have apart {rest : Text} (ended : Ended rest) (text : Text) : Quotes.Apart text rest := by
    refine .inr fun quote => ?_
    rcases ended _ quote with comma | parenthesis
    · exact absurd comma (by decide)
    · exact absurd parenthesis (by decide)
  have read := congrArg Quotes.reading same
  rw [Quotes.reading_append (Quotes.endsOutside_wrap first) (apart rest_ended _),
    Quotes.reading_append (Quotes.endsOutside_wrap second) (apart left_ended _), Quotes.reading_wrap,
    Quotes.reading_wrap] at read
  obtain ⟨equal, -⟩ := List.cons.inj read
  cases equal
  exact ⟨rfl, List.append_cancel_left same⟩

/-! ## Lists -/

/-- The text of a list behind its first member. -/
def listEnd : List Text → Text
  | [] => [')']
  | text :: rest => ',' :: ' ' :: (text ++ listEnd rest)

theorem listText_cons (text : Text) (rest : List Text) :
    listText (text :: rest) = '(' :: (text ++ listEnd rest) := by
  have joined : Value.commaSeparated (text :: rest) ++ [')'] = text ++ listEnd rest := by
    induction rest generalizing text with
    | nil => simp [Value.commaSeparated, Text.joinWith, listEnd]
    | cons next rest ih =>
      have onward := ih next
      simp only [Value.commaSeparated, Text.joinWith] at onward
      simp only [Value.commaSeparated, Text.joinWith, List.intercalate_cons_cons, List.append_assoc,
        onward, listEnd]
      rfl
  rw [← joined]
  rfl

theorem ended_listEnd (texts : List Text) (rest : Text) : Ended (listEnd texts ++ rest) := by
  intro c first
  cases texts with
  | nil => exact .inr (Option.some.inj first).symm
  | cons text others => exact .inl (Option.some.inj first).symm

/-! ## Terms -/

theorem Term.text_list_cons (term : Term) (others : List Term) (rest : Text) :
    (Term.list (term :: others)).text ++ rest =
      '(' :: (term.text ++ (listEnd (Term.texts others) ++ rest)) := by
  rw [← List.append_assoc, ← List.cons_append, ← listText_cons]
  rfl

/-- The character that the text of a term begins with, unless this is a word. -/
def Term.opening? : Term → Option Char
  | .word _ => none
  | .string _ => some '\''
  | .list _ => some '('

theorem Term.opening?_eq (term : Term) (rest : Text) :
    (term.text ++ rest).head?.filter (!isNumberCharacter ·) = term.opening? := by
  cases term with
  | word word =>
    obtain ⟨c, more, split⟩ := List.exists_cons_of_ne_nil word.text_ne_nil
    have own : isNumberCharacter c = true := word.characters c (split ▸ List.mem_cons_self ..)
    simp [Term.text, Term.opening?, split, own]
  | string characters => rfl
  | list members =>
    cases members with
    | nil => rfl
    | cons member others => rfl

/-- The empty collection is no list: behind its parenthesis stands a word that goes on with a space. -/
theorem emptyList_append_ne {term : Term} {rest left : Text} (ended : Ended left) :
    emptyList ++ rest ≠ '(' :: (term.text ++ left) := by
  intro same
  have inside : "SELECT 1 WHERE 1=0)".toList ++ rest = term.text ++ left := (List.cons.inj same).2
  have opening := term.opening?_eq left
  rw [← inside] at opening
  cases term with
  | string characters => cases opening
  | list members => cases opening
  | word word =>
    have select : "SELECT".toList = word.text := by
      rw [← word.takeWhile_append ended]
      exact congrArg (List.takeWhile isNumberCharacter) inside
    rw [Term.text, ← select] at inside
    have split : "SELECT 1 WHERE 1=0)".toList ++ rest =
        "SELECT".toList ++ ' ' :: ("1 WHERE 1=0)".toList ++ rest) := rfl
    have space : ' ' :: ("1 WHERE 1=0)".toList ++ rest) = left :=
      List.append_cancel_left (split.symm.trans inside)
    rw [← space] at ended
    exact absurd (ended ' ' rfl) (by decide)

mutual

/-- Where terms end, their texts are the same only if the terms are. -/
theorem Term.append_inj (first second : Term) {rest left : Text} (rest_ended : Ended rest)
    (left_ended : Ended left) (same : first.text ++ rest = second.text ++ left) :
    first = second ∧ rest = left := by
  have opening : first.opening? = second.opening? := by
    rw [← first.opening?_eq rest, same, second.opening?_eq left]
  match first, second with
  | .word first, .word second =>
    obtain ⟨rfl, equal⟩ := Word.append_inj rest_ended left_ended same
    exact ⟨rfl, equal⟩
  | .string first, .string second =>
    obtain ⟨rfl, equal⟩ := string_append_inj rest_ended left_ended same
    exact ⟨rfl, equal⟩
  | .list [], .list [] => exact ⟨rfl, List.append_cancel_left same⟩
  | .list [], .list (second :: others) =>
    rw [text_list_cons] at same
    exact absurd same (emptyList_append_ne (ended_listEnd _ _))
  | .list (first :: more), .list [] =>
    rw [text_list_cons] at same
    exact absurd same.symm (emptyList_append_ne (ended_listEnd _ _))
  | .list (first :: more), .list (second :: others) =>
    rw [text_list_cons, text_list_cons] at same
    obtain ⟨rfl, behind⟩ := Term.append_inj first second (ended_listEnd _ _) (ended_listEnd _ _)
      (List.cons.inj same).2
    obtain ⟨rfl, equal⟩ := Term.listEnd_inj more others behind
    exact ⟨rfl, equal⟩

theorem Term.listEnd_inj (first second : List Term) {rest left : Text}
    (same : listEnd (Term.texts first) ++ rest = listEnd (Term.texts second) ++ left) :
    first = second ∧ rest = left := by
  match first, second with
  | [], [] => exact ⟨rfl, (List.cons.inj same).2⟩
  | [], second :: others => exact absurd (List.cons.inj same).1 (by decide)
  | first :: more, [] => exact absurd (List.cons.inj same).1 (by decide)
  | first :: more, second :: others =>
    simp only [Term.texts, listEnd, List.cons_append, List.append_assoc, List.cons.injEq, true_and] at same
    obtain ⟨rfl, behind⟩ := Term.append_inj first second (ended_listEnd _ _) (ended_listEnd _ _) same
    obtain ⟨rfl, equal⟩ := Term.listEnd_inj more others behind
    exact ⟨rfl, equal⟩

end

theorem Term.text_injective {first second : Term} (same : first.text = second.text) : first = second := by
  have ended : Ended [] := fun _ first => by cases first
  exact (Term.append_inj first second ended ended (by rw [same])).1

end Sql

end QueryTemplates
