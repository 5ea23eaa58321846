import QueryTemplates.Proofs.Number.Numeral
import QueryTemplates.Proofs.Quotes.Rendering

/-! # How renderings fail

A rendering with one of the processors of this library fails with a render error for its own query, with two
exceptions. An integer can be too long: one that has more digits than are converted ends the rendering with a
failure of another kind, wherever it lies in an argument or in the default value. And an object or a time zone
of the caller that lies there can fail itself when it is asked for what is to be written. The limit that an
interpreter sets to nested calls is set aside: values of every depth are written here.
-/

namespace QueryTemplates

/-! ## Values that fail -/

namespace Value

/-- Something that fails when it is to be written is the value or lies in it: an integer that is too long, or a
time zone or an object of the caller, which fails with a message. -/
inductive Holds : RenderFailure → Value → Prop
  | int {i : Int} (long : 10 ^ Numeral.digitLimit ≤ i.natAbs) : Holds .longInteger (.int i)
  | zone {time : DateTime} {zone : Zone} {message : Text}
      (fails : zone.offset = .error message ∨ zone.shown = .error message) :
      Holds (.processor message) (.zonedTime time zone)
  | object {typeName : Text} {plain shown : Except Text Text} {message : Text}
      (fails : plain = .error message ∨ shown = .error message) :
      Holds (.processor message) (.object typeName plain shown)
  | member {failure : RenderFailure} {kind : CollectionKind} {members : List Value} {member : Value}
      (present : member ∈ members) (holds : Holds failure member) : Holds failure (.collection kind members)
  | field {failure : RenderFailure} {fields : List (Text × Value)} {field : Text × Value}
      (present : field ∈ fields) (holds : Holds failure field.2) : Holds failure (.record fields)

/-- An integer that is too long to be written is the value or lies in it. -/
abbrev HoldsLongInteger (value : Value) : Prop := value.Holds .longInteger

variable {failure : RenderFailure}

theorem holdsLongInteger_int_iff {i : Int} : (Value.int i).HoldsLongInteger ↔ 10 ^ Numeral.digitLimit ≤ i.natAbs :=
  ⟨fun (.int long) => long, .int⟩

theorem holds_collection_iff {kind : CollectionKind} {members : List Value} :
    (Value.collection kind members).Holds failure ↔ ∃ member ∈ members, member.Holds failure :=
  ⟨fun (.member present holds) => ⟨_, present, holds⟩, fun ⟨_, present, holds⟩ => .member present holds⟩

theorem holds_record_iff {fields : List (Text × Value)} :
    (Value.record fields).Holds failure ↔ ∃ field ∈ fields, field.2.Holds failure :=
  ⟨fun (.field present holds) => ⟨_, present, holds⟩, fun ⟨_, present, holds⟩ => .field present holds⟩

/-- What fails is too long an integer, or code of the caller. -/
theorem Holds.eq_or {value : Value} (holds : value.Holds failure) :
    failure = .longInteger ∨ ∃ message, failure = .processor message := by
  induction holds with
  | int => exact .inl rfl
  | zone | object => exact .inr ⟨_, rfl⟩
  | member _ _ ih | field _ _ ih => exact ih

theorem holds_of_intText {i : Int} (failed : intText i = .error failure) : (Value.int i).Holds failure := by
  obtain ⟨long, rfl⟩ := intText_eq_error.mp failed
  exact .int (Numeral.ofInt?_eq_none_iff.mp long)

theorem exists_place {time : DateTime} {zone : Zone} {offset : Option Int} (told : zone.offset = .ok offset) :
    ∃ placed, zone.place time = .ok placed :=
  ⟨_, map_eq_ok.mpr ⟨offset, mapError_eq_ok.mpr told, rfl⟩⟩

theorem holds_of_place {time : DateTime} {zone : Zone} (failed : zone.place time = .error failure) :
    (Value.zonedTime time zone).Holds failure := by
  obtain ⟨message, silent, rfl⟩ := mapError_eq_error.mp (map_eq_error.mp failed)
  exact .zone (.inl silent)

mutual

/-- Where a value cannot be shown, this is due to something that it holds. -/
theorem holds_of_shown : (value : Value) → value.shown = .error failure → value.Holds failure
  | .int _, failed => holds_of_intText failed
  | .bool true, failed => by cases failed
  | .bool false, failed => by cases failed
  | .zonedTime _ _, failed => by
    obtain ⟨message, silent, rfl⟩ := mapError_eq_error.mp (map_eq_error.mp failed)
    exact .zone (.inr silent)
  | .collection _ members, failed => by
    obtain ⟨member, present, holds⟩ := holds_of_shownMembers members (map_eq_error.mp failed)
    exact .member present holds
  | .record fields, failed => by
    obtain ⟨field, present, holds⟩ := holds_of_shownFields fields (map_eq_error.mp failed)
    exact .field present holds
  | .object _ _ _, failed => by
    obtain ⟨message, silent, rfl⟩ := mapError_eq_error.mp failed
    exact .object (.inr silent)

theorem holds_of_shownMembers : (members : List Value) → shownMembers members = .error failure →
    ∃ member ∈ members, member.Holds failure
  | value :: rest, failed => by
    rw [shownMembers] at failed
    cases one : shown value with
    | error other =>
      rw [one] at failed
      cases failed
      exact ⟨value, List.mem_cons_self .., holds_of_shown value one⟩
    | ok first =>
      rw [one] at failed
      obtain ⟨member, present, holds⟩ := holds_of_shownMembers rest (map_eq_error.mp failed)
      exact ⟨member, List.mem_cons_of_mem _ present, holds⟩

theorem holds_of_shownFields : (fields : List (Text × Value)) → shownFields fields = .error failure →
    ∃ field ∈ fields, field.2.Holds failure
  | (name, value) :: rest, failed => by
    rw [shownFields] at failed
    cases one : shown value with
    | error other =>
      rw [one] at failed
      cases failed
      exact ⟨(name, value), List.mem_cons_self .., holds_of_shown value one⟩
    | ok first =>
      rw [one] at failed
      obtain ⟨field, present, holds⟩ := holds_of_shownFields rest (map_eq_error.mp failed)
      exact ⟨field, List.mem_cons_of_mem _ present, holds⟩

end

/-- Where a value has no plain text, this is due to something that it holds. -/
theorem holds_of_plainText {value : Value} (failed : value.plainText = .error failure) : value.Holds failure := by
  cases value with
  | text _ | decimal _ | date _ | dateTime _ => cases failed
  | zonedTime time zone => exact holds_of_place (map_eq_error.mp failed)
  | object typeName plain shown =>
    obtain ⟨message, silent, rfl⟩ := mapError_eq_error.mp failed
    exact .object (.inl silent)
  | _ => exact holds_of_shown _ failed

theorem holds_of_numberText? {value : Value} (failed : value.numberText? = some (.error failure)) :
    value.Holds failure := by
  cases value with
  | int i => exact holds_of_intText (Option.some.inj failed)
  | _ => cases failed

theorem holds_of_characters? {value : Value} (failed : value.characters? = some (.error failure)) :
    value.Holds failure := by
  cases value with
  | zonedTime time zone => exact holds_of_place (map_eq_error.mp (Option.some.inj failed))
  | _ => cases failed

end Value

variable {id key : Text} {value : Value} {values more : List Value} {failure : RenderFailure}

/-! ## Failures to write a value -/

/-- A failure to write a value: something is not of a supported kind, or it is due to what the value holds. -/
inductive RenderFailure.IsOfValue (key id : Text) (value : Value) : RenderFailure → Prop
  | unsupported (typeName : Text) : IsOfValue key id value (.error (.unsupportedValue id key typeName))
  | held {failure : RenderFailure} (holds : value.Holds failure) : IsOfValue key id value failure

/-- A failure to write a member is one to write the collection. -/
theorem RenderFailure.IsOfValue.of_member {kind : CollectionKind} {members : List Value} {member : Value}
    (present : member ∈ members) (failed : failure.IsOfValue key id member) :
    failure.IsOfValue key id (.collection kind members) := by
  cases failed with
  | unsupported typeName => exact .unsupported typeName
  | held holds => exact .held (.member present holds)

theorem Sql.mem_of_listOf_eq_error {outcomes : List (Except RenderFailure Text)}
    (failed : Sql.listOf outcomes = .error failure) : .error failure ∈ outcomes := by
  rw [Sql.listOf] at failed
  split at failed
  · cases failed
  · rcases of_bind_eq_error failed with all | ⟨texts, -, failed⟩
    · exact mem_of_mapM_eq_error all
    · cases failed

/-- Where a collection has no text, this is due to a member: it has no text, or no plain text to be sorted
by. -/
theorem Sql.exists_of_format_collection_eq_error {words : Sql} {kind : CollectionKind} {members : List Value}
    (failed : words.format key id (.collection kind members) = .error failure) :
    ∃ member ∈ members, member.plainText = .error failure ∨ words.format key id member = .error failure := by
  rw [format, formatMembers_eq_map] at failed
  split at failed
  · rcases of_bind_eq_error failed with unordered | ⟨sorted, ordered, failed⟩
    · rcases of_bind_eq_error unordered with keys | ⟨_, -, moved⟩
      · obtain ⟨member, present, plain⟩ := List.mem_map.mp (mem_of_mapM_eq_error keys)
        exact ⟨member, present, .inl plain⟩
      · cases moved
    · rw [inKeyOrder_eq_ok ordered] at failed
      obtain ⟨member, present, formatted⟩ := List.mem_map.mp (mem_of_listOf_eq_error failed)
      exact ⟨member, (List.mergeSort_perm members plainOrder).mem_iff.mp present, .inr formatted⟩
  · obtain ⟨member, present, formatted⟩ := List.mem_map.mp (mem_of_listOf_eq_error failed)
    exact ⟨member, present, .inr formatted⟩

theorem Sql.isOfValue_of_format (words : Sql) (failed : words.format key id value = .error failure) :
    failure.IsOfValue key id value := by
  induction value using Value.induction_on_members with
  | step value ih =>
    cases value with
    | null | bool _ | text _ | date _ | dateTime _ => cases failed
    | int _ | float _ | decimal _ => exact .held (Value.holds_of_numberText? (congrArg some failed))
    | zonedTime _ _ => exact .held (Value.holds_of_characters? (congrArg some (map_eq_error.mp failed)))
    | collection kind members =>
      obtain ⟨member, present, plain | formatted⟩ := exists_of_format_collection_eq_error failed
      · exact .held (.member present (Value.holds_of_plainText plain))
      · exact (ih member present formatted).of_member present
    | record _ | object _ _ _ =>
      cases failed
      exact .unsupported _

theorem Configurable.isOfValue_of_format (settings : Configurable)
    (failed : settings.format key id value = .error failure) : failure.IsOfValue key id value := by
  cases value with
  | int _ | float _ | decimal _ => exact .held (Value.holds_of_numberText? (congrArg some failed))
  | zonedTime _ _ => exact .held (Value.holds_of_characters? (congrArg some (map_eq_error.mp failed)))
  | bool _ | text _ | date _ | dateTime _ => cases failed
  | null | collection _ _ | record _ | object _ _ _ =>
    cases failed
    exact .unsupported _

theorem Configurable.isOfValue_of_substitute (settings : Configurable)
    (failed : settings.substitute key id = .error failure) : failure.IsOfValue key id settings.default := by
  rw [Configurable.substitute] at failed
  split at failed
  · cases failed
  · split at failed
    · cases failed
    · have unwritten := map_eq_error.mp failed
      split at unwritten
      · exact isOfValue_of_format settings unwritten
      · split at unwritten
        · cases unwritten
        · exact .held (Value.holds_of_plainText unwritten)

/-! ## Renderings -/

/-- The processors of this library, with the values that they bring along. -/
inductive BuiltIn : (stock : List Value) → Processor → Prop
  | sql (words : Sql) : BuiltIn [] words.processor
  | configurable (settings : Configurable) : BuiltIn [settings.default] settings.processor

namespace BuiltIn

variable {stock : List Value} {processor : Processor} {arguments : Arguments}

end BuiltIn

end QueryTemplates
