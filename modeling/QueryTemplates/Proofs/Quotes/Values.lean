import Mathlib.Data.List.TakeWhile
import QueryTemplates.Processor.Configurable
import QueryTemplates.Proofs.Number.Characters
import QueryTemplates.Proofs.Processor.Sql
import QueryTemplates.Proofs.Quotes.Reading

/-! # Reading the texts of values

A processor that puts texts between single quotes writes each value so that it reads as the value is
built: a text or a date as one string with exactly its characters, or as code where it looks like a number
and may stand bare, a collection as a list of what its members read as, and all else as code. Nothing that
a value holds can open a string, or close one.
-/

namespace QueryTemplates.Quotes

open List (Forall₂)

/-- How the query text of a value reads, where the texts that are `bare` stand without quotes. -/
inductive ReadsAs (bare : Text → Bool) : Value → List Part → Prop
  /-- a value that holds no characters and no members is code -/
  | plain {value : Value} (written : Text) (no_characters : value.characters? = none)
      (no_members : value.members = []) : ReadsAs bare value (code written)
  /-- a bare text is code as it stands -/
  | bare {value : Value} {text : Text} (characters : value.characters? = some (.ok text))
      (is_bare : bare text = true) : ReadsAs bare value (code text)
  /-- any other text is one string with these characters -/
  | string {value : Value} {text : Text} (characters : value.characters? = some (.ok text))
      (is_wrapped : bare text = false) : ReadsAs bare value [.string text]
  /-- members are read one by one, in their order unless they belong to a set -/
  | list {kind : CollectionKind} {members order : List Value} {parts : List (List Part)}
      (perm : order.Perm members) (kept : kind.isSet = false → order = members)
      (each : Forall₂ (ReadsAs bare) order parts) :
      ReadsAs bare (.collection kind members)
        (code ['('] ++ (code ", ".toList).intercalate parts ++ code [')'])

/-- The text of a value that reads as it should, and does not end inside a string. -/
structure Faithful (bare : Text → Bool) (value : Value) (written : Text) : Prop where
  reads : ReadsAs bare value (reading written)
  closed : EndsOutside written

namespace Faithful

variable {bare : Text → Bool} {value : Value} {text written : Text}

theorem plain (no_characters : value.characters? = none) (no_members : value.members = [])
    (free : '\'' ∉ written) : Faithful bare value written := by
  refine ⟨?_, endsOutside_of_quote_free free⟩
  rw [reading_of_quote_free free]
  exact .plain written no_characters no_members

theorem of_bare (characters : value.characters? = some (.ok text)) (is_bare : bare text = true)
    (free : '\'' ∉ text) : Faithful bare value text := by
  refine ⟨?_, endsOutside_of_quote_free free⟩
  rw [reading_of_quote_free free]
  exact .bare characters is_bare

theorem wrap (characters : value.characters? = some (.ok text)) (is_wrapped : bare text = false) :
    Faithful bare value (Text.wrap ['\''] text) := by
  refine ⟨?_, endsOutside_wrap text⟩
  rw [reading_wrap]
  exact .string characters is_wrapped

/-- A number has no characters and no members, and its text has no quotes. -/
theorem number {outcome : Except RenderFailure Text} (number : value.numberText? = some outcome)
    (done : outcome = .ok written) : Faithful bare value written := by
  have quote : isNumberCharacter '\'' = false := by decide
  cases value with
  | int i =>
    have converted := Value.intText_eq_ok.mp ((Option.some.inj number).trans done)
    exact plain rfl rfl ((Numeral.ofInt?_characters converted).notMem quote)
  | float value =>
    cases number
    cases done
    exact plain rfl rfl (value.text_characters.notMem quote)
  | decimal value =>
    cases number
    cases done
    exact plain rfl rfl (value.text_characters.notMem quote)
  | _ => cases number

end Faithful

/-! ## Lists -/

private theorem reading_join {texts : List Text} (closed : ∀ text ∈ texts, EndsOutside text) :
    reading (Value.commaSeparated texts) = (code ", ".toList).intercalate (texts.map reading) ∧
      EndsOutside (Value.commaSeparated texts) := by
  have comma_free : '\'' ∉ ", ".toList := by decide
  induction texts with
  | nil => exact ⟨rfl, fun _ absent => (List.not_mem_nil absent).elim⟩
  | cons text rest ih =>
    have own := closed text (List.mem_cons_self ..)
    cases rest with
    | nil =>
      simp only [Value.commaSeparated, Text.joinWith, List.intercalate_singleton, List.map_cons,
        List.map_nil]
      exact ⟨trivial, own⟩
    | cons next rest =>
      obtain ⟨parts, rest_closed⟩ := ih fun other member => closed other (List.mem_cons_of_mem _ member)
      have before : Apart text ", ".toList := .inr (by decide)
      have after : Apart (text ++ ", ".toList) (Value.commaSeparated (next :: rest)) :=
        .inl (by rw [List.getLast?_append]; change some ' ' ≠ some '\''; decide)
      have first := own.append before (endsOutside_of_quote_free comma_free)
      have split : Value.commaSeparated (text :: next :: rest) =
          text ++ ", ".toList ++ Value.commaSeparated (next :: rest) :=
        List.intercalate_cons_cons
      rw [split]
      refine ⟨?_, first.append after rest_closed⟩
      rw [reading_append first after, reading_append own before, reading_of_quote_free comma_free, parts]
      simp only [List.map_cons, List.intercalate_cons_cons]

/-- A list of texts that end outside strings reads as these, one by one. -/
theorem reading_listText {texts : List Text} (closed : ∀ text ∈ texts, EndsOutside text) :
    reading (Sql.listText texts) =
        code ['('] ++ (code ", ".toList).intercalate (texts.map reading) ++ code [')'] ∧
      EndsOutside (Sql.listText texts) := by
  obtain ⟨parts, inner⟩ := reading_join closed
  have open_free : '\'' ∉ ['('] := by decide
  have close_free : '\'' ∉ [')'] := by decide
  have opened := endsOutside_of_quote_free open_free
  have before : Apart ['('] (Value.commaSeparated texts) := .inl (by decide)
  have after : Apart (['('] ++ Value.commaSeparated texts) [')'] := .inr (by decide)
  have front := opened.append before inner
  change reading (['('] ++ Value.commaSeparated texts ++ [')']) = _ ∧
    EndsOutside (['('] ++ Value.commaSeparated texts ++ [')'])
  refine ⟨?_, front.append after (endsOutside_of_quote_free close_free)⟩
  rw [reading_append front after, reading_append opened before, reading_of_quote_free open_free,
    reading_of_quote_free close_free, parts]

/-! ## Processors -/

/-- What a processor writes, for a value or in place of one, reads as it should. -/
structure FaithfulProcessor (bare : Text → Bool) (processor : Processor) : Prop where
  format : ∀ {key id : Text} {value : Value} {written : Text},
    processor.format key id value = .ok written → Faithful bare value written
  substitute : ∀ {key id written : Text},
    processor.substitute key id = .ok (some written) → Faithful bare .null written

section Sql

variable {words : Sql} {key id : Text}

private theorem closed_of_members {bare : Text → Bool} {values : List Value} {texts : List Text}
    (each : Forall₂ (Faithful bare) values texts) : ∀ text ∈ texts, EndsOutside text := by
  intro text member
  obtain ⟨value, -, faithful⟩ := exists_of_mem_right each member
  exact faithful.closed

/-- A collection is faithful when its members are. -/
private theorem faithful_collection {kind : CollectionKind} {members : List Value} {written : Text}
    (each : ∀ member ∈ members, ∀ text, words.format key id member = .ok text →
      Faithful (fun _ => false) member text)
    (done : words.format key id (.collection kind members) = .ok written) :
    Faithful (fun _ => false) (.collection kind members) written := by
  rcases Sql.format_collection done with ⟨rfl, rfl⟩ | ⟨order, texts, perm, kept, all, rfl⟩
  · exact .plain rfl rfl (by decide)
  · have faithful : Forall₂ (Faithful fun _ => false) order texts := by
      have members_only : ∀ member ∈ order, member ∈ members := fun _ => perm.mem_iff.mp
      clear perm kept done
      induction all with
      | nil => exact .nil
      | cons one _ ih =>
        refine .cons (each _ (members_only _ (List.mem_cons_self ..)) _ one) (ih fun member later => ?_)
        exact members_only member (List.mem_cons_of_mem _ later)
    obtain ⟨parts, closed⟩ := reading_listText (closed_of_members faithful)
    refine ⟨?_, closed⟩
    rw [parts]
    refine .list perm kept ?_
    rw [List.forall₂_map_right_iff]
    exact faithful.imp fun _ _ one => one.reads

private theorem faithful_of_format (true_free : '\'' ∉ words.trueWord)
    (false_free : '\'' ∉ words.falseWord) : (value : Value) → (written : Text) →
    words.format key id value = .ok written → Faithful (fun _ => false) value written
  | .null, _, done => by
    cases done
    exact .plain rfl rfl (by decide)
  | .bool true, _, done => by
    cases done
    exact .plain rfl rfl true_free
  | .bool false, _, done => by
    cases done
    exact .plain rfl rfl false_free
  | .int _, _, done => .number rfl done
  | .float _, _, done => .number rfl done
  | .decimal _, _, done => .number rfl done
  | .text _, _, done => by
    cases done
    exact .wrap rfl rfl
  | .date _, _, done => by
    cases done
    exact .wrap rfl rfl
  | .dateTime _, _, done => by
    cases done
    exact .wrap rfl rfl
  | .zonedTime _ _, _, done => by
    obtain ⟨text, told, rfl⟩ := map_eq_ok.mp done
    exact .wrap (congrArg some told) rfl
  | .collection _ _, _, done =>
    faithful_collection (fun member present => faithful_of_format true_free false_free member) done
  | .record _, _, done => by cases done
  | .object _ _ _, _, done => by cases done
termination_by value => sizeOf value
decreasing_by
  have := List.sizeOf_lt_of_mem present
  simp only [Value.collection.sizeOf_spec]
  omega

/-- The SQL processor is faithful, and wraps every text, if the words for truth values hold no quote. -/
theorem sql_faithful (words : Sql) (true_free : '\'' ∉ words.trueWord)
    (false_free : '\'' ∉ words.falseWord) : FaithfulProcessor (fun _ => false) words.processor where
  format done := faithful_of_format true_free false_free _ _ done
  substitute done := by
    cases done
    exact .plain rfl rfl (by decide)

end Sql

section Configurable

private theorem quote_free_of_fraction {c : Char} {digits : Text}
    (fraction : (c == '.' && Numeral.isDigits digits) = true) : '\'' ∉ c :: digits := by
  simp only [Numeral.isDigits, Bool.and_eq_true, beq_iff_eq, List.all_eq_true] at fraction
  intro member
  rcases List.mem_cons.mp member with quote | member
  · exact absurd (quote.trans fraction.1) (by decide)
  · exact absurd (fraction.2.2 _ member) (by decide)

private theorem quote_free_of_unsigned {text : Text}
    (fraction : ∀ c digits, text.dropWhile Char.isDigit = c :: digits →
      (c == '.' && Numeral.isDigits digits) = true) : '\'' ∉ text := by
  rw [← List.takeWhile_append_dropWhile (p := Char.isDigit) (l := text), List.mem_append]
  rintro (digit | member)
  · exact absurd (List.mem_takeWhile_imp digit) (by decide)
  · cases rest : text.dropWhile Char.isDigit with
    | nil =>
      rw [rest] at member
      exact List.not_mem_nil member
    | cons c digits =>
      rw [rest] at member
      exact quote_free_of_fraction (fraction c digits rest) member

/-- A text that looks like a number has no quote. -/
theorem quote_free_of_looksNumeric {text : Text} (numeric : looksNumeric text = true) : '\'' ∉ text := by
  simp only [looksNumeric, Bool.and_eq_true] at numeric
  split at numeric
  · next unsigned =>
    intro member
    rcases List.mem_cons.mp member with sign | member
    · exact absurd sign (by decide)
    · refine quote_free_of_unsigned (fun c digits rest => ?_) member
      rw [rest] at numeric
      exact numeric.2
  · refine quote_free_of_unsigned fun c digits rest => ?_
    rw [rest] at numeric
    exact numeric.2

/-- The texts that configured processors write without quotes though they wrap texts. -/
def bareNumeric (settings : Configurable) (text : Text) : Bool :=
  !settings.wrapsNumericTexts && looksNumeric text

private theorem faithful_characters {settings : Configurable} (wraps : settings.wrapsTexts = true)
    (delimiter : settings.delimiter = ['\'']) (never_bare : settings.keepsDefaultBare = false)
    {value : Value} {text : Text} (characters : value.characters? = some (.ok text)) :
    Faithful (bareNumeric settings) value (settings.characters text) := by
  simp only [Configurable.characters, wraps, Bool.not_true, Bool.false_eq_true, if_false, never_bare,
    Bool.false_and, delimiter]
  split
  · next is_bare =>
    exact .of_bare characters is_bare (quote_free_of_looksNumeric (Bool.and_eq_true_iff.mp is_bare).2)
  · next is_wrapped => exact .wrap characters (Bool.eq_false_iff.mpr is_wrapped)

/-- The configurable processor is faithful if it wraps texts with single quotes and makes no exception
for default values. -/
theorem configurable_faithful (settings : Configurable) (wraps : settings.wrapsTexts = true)
    (delimiter : settings.delimiter = ['\'']) (no_default : settings.substitutesDefault = false)
    (never_bare : settings.keepsDefaultBare = false) :
    FaithfulProcessor (bareNumeric settings) settings.processor where
  format {key id value written} done := by
    change settings.format key id value = .ok written at done
    cases value with
    | bool truth =>
      cases done
      cases truth with
      | true => exact .plain rfl rfl (by decide)
      | false => exact .plain rfl rfl (by decide)
    | int _ => exact .number rfl done
    | float _ => exact .number rfl done
    | decimal _ => exact .number rfl done
    | text _ | date _ | dateTime _ =>
      cases done
      exact faithful_characters wraps delimiter never_bare rfl
    | zonedTime _ _ =>
      obtain ⟨text, told, rfl⟩ := map_eq_ok.mp done
      exact faithful_characters wraps delimiter never_bare (congrArg some told)
    | null | collection _ _ | record _ | object _ _ _ => cases done
  substitute {key id written} done := by
    change settings.substitute key id = .ok (some written) at done
    rw [Configurable.substitute, no_default] at done
    cases done

end Configurable

end QueryTemplates.Quotes
