import QueryTemplates.Proofs.Rendering.Failures
import QueryTemplates.Proofs.Text.Parts

/-! # Values that have a query text

The SQL processor writes all values but those that are, or hold at any depth, a record or something of another
kind that no query text is made of. Where it fails, the error is about the first such element that is met when
the members of each collection are gone through as they would be written.
-/

namespace QueryTemplates

namespace Value

variable {value element : Value} {kind : CollectionKind} {members : List Value}

/-! ## Elements -/

/-- No query text is made of a value of this kind, whatever it holds. -/
def isUnsupported : Value → Bool
  | .record _ | .object _ _ _ => true
  | _ => false

mutual

/-- The value and all that lies in its collections at any depth, from left to right, each collection in front
of its members. -/
def elements : Value → List Value
  | .collection kind members => .collection kind members :: elementsOf members
  | value => [value]

/-- The elements of values, one value after another. -/
def elementsOf : List Value → List Value
  | [] => []
  | value :: rest => value.elements ++ elementsOf rest

end

theorem elements_collection (kind : CollectionKind) (members : List Value) :
    (Value.collection kind members).elements = .collection kind members :: members.flatMap elements := by
  have all : elementsOf members = members.flatMap elements := by
    induction members with
    | nil => rfl
    | cons value rest ih => rw [elementsOf, List.flatMap_cons, ih]
  rw [elements, all]

theorem elements_of_no_members (alone : value.members = []) : value.elements = [value] := by
  cases value with
  | collection kind members =>
    obtain rfl : members = [] := alone
    rfl
  | _ => rfl

theorem mem_elements_self (value : Value) : value ∈ value.elements := by
  cases value <;> exact List.mem_cons_self ..

theorem mem_elements_of_member {member : Value} (present : member ∈ members)
    (inner : element ∈ member.elements) : element ∈ (Value.collection kind members).elements := by
  rw [elements_collection]
  exact List.mem_cons_of_mem _ (List.mem_flatMap.mpr ⟨member, present, inner⟩)

/-- No element is of a kind that is not supported. -/
def IsSupported (value : Value) : Prop := ∀ element ∈ value.elements, element.isUnsupported = false

theorem isSupported_collection_iff :
    (Value.collection kind members).IsSupported ↔ ∀ member ∈ members, member.IsSupported := by
  simp only [IsSupported, elements_collection, List.forall_mem_cons, List.mem_flatMap, isUnsupported, true_and]
  constructor
  · intro all member present element inner
    exact all element ⟨member, present, inner⟩
  · rintro all element ⟨member, present, inner⟩
    exact all member present element inner

instance : Decidable value.IsSupported := inferInstanceAs (Decidable (∀ element ∈ value.elements, _))

/-- The value is a set of either kind. -/
def isSet : Value → Bool
  | .collection kind _ => kind.isSet
  | _ => false

/-- No set among the elements holds something that is not supported. -/
def SetsSupported (value : Value) : Prop := ∀ element ∈ value.elements, element.isSet = true → element.IsSupported

instance : Decidable value.SetsSupported := inferInstanceAs (Decidable (∀ element ∈ value.elements, _))

/-- What code of the caller is asked for when a value of this kind is written is told, members apart: the offset
of a time in a zone of the caller, and the plain texts by which the members of a set are ordered. -/
def tells : Value → Bool
  | .zonedTime _ zone => zone.offset.isOk
  | .collection kind members => !kind.isSet || members.all fun member => member.plainText.isOk
  | _ => true

/-- What code of the caller is asked for about the elements is told. -/
def IsTold (value : Value) : Prop := ∀ element ∈ value.elements, element.tells = true

instance : Decidable value.IsTold := inferInstanceAs (Decidable (∀ element ∈ value.elements, _))

theorem IsTold.member {member : Value} (told : (Value.collection kind members).IsTold)
    (present : member ∈ members) : member.IsTold :=
  fun element inner => told element (mem_elements_of_member present inner)

theorem IsTold.exists_offset {time : DateTime} {zone : Zone} (told : (Value.zonedTime time zone).IsTold) :
    ∃ offset, zone.offset = .ok offset :=
  isOk_iff.mp (told _ (mem_elements_self _))

theorem IsTold.exists_plainText {member : Value} (told : (Value.collection kind members).IsTold)
    (set : kind.isSet = true) (present : member ∈ members) : ∃ plain, member.plainText = .ok plain := by
  have own := told _ (mem_elements_self _)
  rw [tells, set, Bool.not_true, Bool.false_or, List.all_eq_true] at own
  exact isOk_iff.mp (own member present)

/-- The first element that is not supported, where the members of each collection are gone through in the order
in which they are written. -/
inductive FirstUnsupported : Value → Value → Prop
  | itself {value : Value} (unsupported : value.isUnsupported = true) : FirstUnsupported value value
  | inside {kind : CollectionKind} {members earlier later : List Value} {member element : Value}
      (order : Sql.outputOrder kind members = earlier ++ member :: later)
      (before : ∀ other ∈ earlier, other.IsSupported) (first : FirstUnsupported member element) :
      FirstUnsupported (.collection kind members) element

theorem FirstUnsupported.mem_elements (first : FirstUnsupported value element) :
    element ∈ value.elements ∧ element.isUnsupported = true := by
  induction first with
  | itself unsupported => exact ⟨mem_elements_self _, unsupported⟩
  | @inside kind members earlier later member element order before first ih =>
    have present : member ∈ members := by
      rw [← (Sql.outputOrder_perm kind members).mem_iff, order]
      exact List.mem_append_right _ (List.mem_cons_self ..)
    exact ⟨mem_elements_of_member present ih.1, ih.2⟩

theorem isSupported_iff_find? : value.IsSupported ↔ value.elements.find? isUnsupported = none := by
  simp only [IsSupported, List.find?_eq_none, Bool.not_eq_true]

theorem SetsSupported.member {member : Value} (sets : (Value.collection kind members).SetsSupported)
    (present : member ∈ members) : member.SetsSupported :=
  fun element inner => sets element (mem_elements_of_member present inner)

theorem firstUnsupported_iff_of_no_members (alone : value.members = []) :
    FirstUnsupported value element ↔ value.isUnsupported = true ∧ element = value := by
  constructor
  · intro first
    obtain ⟨present, unsupported⟩ := first.mem_elements
    rw [elements_of_no_members alone] at present
    obtain rfl := List.mem_singleton.mp present
    exact ⟨unsupported, rfl⟩
  · rintro ⟨unsupported, rfl⟩
    exact .itself unsupported

/-- A value is supported if there is no first element that is not. -/
theorem isSupported_iff_forall_not : value.IsSupported ↔ ∀ element, ¬ FirstUnsupported value element := by
  constructor
  · intro supported element first
    obtain ⟨present, unsupported⟩ := first.mem_elements
    exact Bool.false_ne_true ((supported element present).symm.trans unsupported)
  · induction value using Value.induction_on_members with
    | step value ih =>
      intro none
      by_cases alone : value.members = []
      · rw [IsSupported, elements_of_no_members alone, List.forall_mem_singleton, ← Bool.not_eq_true]
        exact fun unsupported => none value (.itself unsupported)
      · cases value with
        | collection kind members =>
          rw [isSupported_collection_iff]
          intro member present
          -- else a first one of the members has an element that is not supported
          refine ih member present fun element first => ?_
          have among : member ∈ Sql.outputOrder kind members := (Sql.outputOrder_perm kind members).mem_iff.mpr present
          obtain ⟨element, earlier, item, later, order, first, sound⟩ :=
            FirstFailure.exists_iff.mpr ⟨member, among, element, first⟩
          refine none element (.inside order (fun other before => ih other ?_ (sound other before)) first)
          exact (Sql.outputOrder_perm kind members).mem_iff.mp (order ▸ List.mem_append_left _ before)
        | _ => exact absurd rfl alone

theorem firstUnsupported_collection_iff : FirstUnsupported (.collection kind members) element ↔
    FirstFailure FirstUnsupported (Sql.outputOrder kind members) element := by
  simp only [FirstFailure, ← isSupported_iff_forall_not]
  constructor
  · intro first
    cases first with
    | itself unsupported => cases unsupported
    | inside order before first => exact ⟨_, _, _, order, first, before⟩
  · rintro ⟨earlier, member, later, order, first, before⟩
    exact .inside order before first

/-- Where no set holds what is not supported, the order from left to right is the order in which members are
written. -/
theorem firstUnsupported_iff_find? (sets : value.SetsSupported) :
    FirstUnsupported value element ↔ value.elements.find? isUnsupported = some element := by
  induction value using Value.induction_on_members generalizing element with
  | step value ih =>
    cases value with
    | collection kind members =>
      cases set : kind.isSet with
      | true =>
        have supported := sets _ (mem_elements_self _) set
        rw [isSupported_iff_find?.mp supported]
        exact iff_of_false (isSupported_iff_forall_not.mp supported element) nofun
      | false =>
        have own_order : Sql.outputOrder kind members = members := by
          rw [Sql.outputOrder, set, if_neg Bool.false_ne_true]
        have each : ∀ member ∈ members, ∀ element,
            FirstUnsupported member element ↔ member.elements.find? isUnsupported = some element :=
          fun member present element => ih member present (sets.member present)
        rw [firstUnsupported_collection_iff, own_order, FirstFailure.congr each, elements_collection,
          List.find?_cons_of_neg Bool.false_ne_true, List.find?_flatMap, List.findSome?_eq_some_iff]
        simp only [FirstFailure, Option.eq_none_iff_forall_ne_some, ne_eq]
    | _ =>
      rw [firstUnsupported_iff_of_no_members rfl, elements_of_no_members rfl, List.find?_singleton]
      split
      · next unsupported => simp only [unsupported, true_and, Option.some.injEq, eq_comm]
      · next supported => simp only [supported, false_and, reduceCtorEq]

end Value

namespace Sql

variable {words : Sql} {key id : Text} {value element : Value} {kind : CollectionKind} {members : List Value}
  {text : Text} {failure : RenderFailure}

/-- A collection is written as the list of its members, as they come in the output, or fails as the first of these
that fails. -/
theorem format_collection_eq (told : (Value.collection kind members).IsTold) :
    words.format key id (.collection kind members) =
      ((outputOrder kind members).mapM (words.format key id)).map collectionText := by
  have listed (order : List Value) : listOf (order.map (words.format key id)) =
      (order.mapM (words.format key id)).map collectionText := by
    rw [listOf_eq, List.mapM_map]
    rfl
  rw [format, formatMembers_eq_map, outputOrder]
  split
  · next set =>
    have plain : ∀ outcome ∈ members.map Value.plainText, ∃ key, outcome = .ok key := by
      refine List.forall_mem_map.mpr fun member present => ?_
      exact told.exists_plainText set present
    obtain ⟨keys, all⟩ := exists_mapM_iff.mpr plain
    have ordered : inKeyOrder (members.map Value.plainText) (members.map (words.format key id)) = .ok _ :=
      congrArg (· >>= _) all
    rw [ordered, inKeyOrder_eq_ok ordered]
    exact listed _
  · exact listed members

/-- An empty collection is written as the list that nothing belongs to. -/
theorem format_empty (words : Sql) (key id : Text) (kind : CollectionKind) :
    words.format key id (.collection kind []) = .ok emptyList := by
  have told : (Value.collection kind []).IsTold := by cases kind <;> decide
  rw [format_collection_eq told, List.perm_nil.mp (outputOrder_perm kind [])]
  rfl

/-- A value without members has a text, or it is not supported and this is the error. -/
theorem format_of_no_members (words : Sql) (key id : Text) (short : ¬ value.HoldsLongInteger)
    (told : value.IsTold) (alone : value.members = []) :
    (value.isUnsupported = false ∧ ∃ text, words.format key id value = .ok text) ∨
      value.isUnsupported = true ∧ words.format key id value = .error (Processor.unsupported key id value) := by
  cases value with
  | null | bool _ | text _ | date _ | dateTime _ | float _ | decimal _ => exact .inl ⟨rfl, _, rfl⟩
  | int i =>
    cases written : Value.intText i with
    | ok numeral => exact .inl ⟨rfl, numeral, written⟩
    | error failure =>
      obtain ⟨long, -⟩ := Value.intText_eq_error.mp written
      exact absurd (.int (Numeral.ofInt?_eq_none_iff.mp long)) short
  | zonedTime time zone =>
    obtain ⟨offset, ahead⟩ := told.exists_offset
    obtain ⟨placed, located⟩ := Value.exists_place ahead
    exact .inl ⟨rfl, _, map_eq_ok.mpr ⟨_, map_eq_ok.mpr ⟨placed, located, rfl⟩, rfl⟩⟩
  | collection kind members =>
    obtain rfl : members = [] := alone
    exact .inl ⟨rfl, _, format_empty words key id kind⟩
  | record _ | object _ _ _ => exact .inr ⟨rfl, rfl⟩

/-- A value fails as the first element does that is not supported. -/
theorem format_eq_error_iff (short : ¬ value.HoldsLongInteger) (told : value.IsTold) :
    words.format key id value = .error failure ↔
      ∃ element, value.FirstUnsupported element ∧ failure = Processor.unsupported key id element := by
  induction value using Value.induction_on_members generalizing failure with
  | step value ih =>
    by_cases alone : value.members = []
    · simp only [Value.firstUnsupported_iff_of_no_members alone]
      rcases format_of_no_members words key id short told alone with ⟨supported, text, written⟩ | ⟨unsupported, failed⟩
      · simp [supported, written]
      · simp [unsupported, failed, eq_comm]
    · cases value with
      | collection kind members =>
        simp only [Value.firstUnsupported_collection_iff]
        rw [format_collection_eq told, map_eq_error, mapM_eq_error_iff]
        apply FirstFailure.map_iff
        intro member among failure
        have present : member ∈ members := (outputOrder_perm kind members).mem_iff.mp among
        exact ih member present (fun holds => short (.member present holds)) (told.member present)
      | _ => exact absurd rfl alone

theorem infix_collectionText {part : Text} {texts : List Text} (member : part ∈ texts) :
    part <:+: collectionText texts := by
  rw [collectionText, if_neg (by simp [List.ne_nil_of_mem member])]
  exact (Text.infix_joinWith _ member).trans ⟨['('], [')'], rfl⟩

/-- The text of each element is a part of the text. -/
theorem exists_part_of_element (written : words.format key id value = .ok text)
    (present : element ∈ value.elements) : ∃ part, words.format key id element = .ok part ∧ part <:+: text := by
  induction value using Value.induction_on_members generalizing text with
  | step value ih =>
    cases value with
    | collection kind members =>
      rw [Value.elements_collection] at present
      rcases List.mem_cons.mp present with rfl | inner
      · exact ⟨text, written, List.infix_rfl⟩
      · obtain ⟨member, among, inner⟩ := List.mem_flatMap.mp inner
        obtain ⟨texts, each, rfl⟩ := format_collection_eq_ok written
        obtain ⟨whole, listed, own⟩ :=
          exists_of_mem_left each ((outputOrder_perm kind members).mem_iff.mpr among)
        obtain ⟨part, formatted, inside⟩ := ih member among own inner
        exact ⟨part, formatted, inside.trans (infix_collectionText listed)⟩
    | _ =>
      rw [Value.elements_of_no_members rfl, List.mem_singleton] at present
      subst present
      exact ⟨text, written, List.infix_rfl⟩

/-- Where a value has a text, all its elements are supported. -/
theorem isSupported_of_format (written : words.format key id value = .ok text) : value.IsSupported := by
  intro element present
  obtain ⟨part, formatted, -⟩ := exists_part_of_element written present
  cases element with
  | record _ | object _ _ _ => cases formatted
  | _ => rfl

/-- A value has a text exactly if all its elements are supported. -/
theorem exists_format_iff (words : Sql) (key id : Text) (short : ¬ value.HoldsLongInteger)
    (told : value.IsTold) :
    (∃ text, words.format key id value = .ok text) ↔ value.IsSupported := by
  constructor
  · rintro ⟨text, written⟩
    exact isSupported_of_format written
  · intro supported
    cases outcome : words.format key id value with
    | ok text => exact ⟨text, rfl⟩
    | error failure =>
      obtain ⟨element, first, -⟩ := (format_eq_error_iff short told).mp outcome
      exact absurd first (Value.isSupported_iff_forall_not.mp supported element)

/-- A value without long integers fails for a kind that is not supported, or as code of the caller does that it
holds. -/
theorem unsupported_or_holds (short : ¬ value.HoldsLongInteger)
    (failed : words.format key id value = .error failure) :
    (∃ typeName, failure = .error (.unsupportedValue id key typeName)) ∨
      ∃ message, failure = .processor message ∧ value.Holds failure := by
  cases words.isOfValue_of_format failed with
  | unsupported typeName => exact .inl ⟨typeName, rfl⟩
  | held holds =>
    rcases holds.eq_or with rfl | ⟨message, rfl⟩
    · exact absurd holds short
    · exact .inr ⟨message, rfl, holds⟩

/-- A value without long integers that has a text has supported elements only, and the text of each of them is part
of its own. If it has no text, the error is that a kind is not supported, and is about the parameter as a whole, or
code of the caller that the value holds has failed. Where this code tells what it is asked, the value has a text
exactly if all elements are supported. Else the error names the type of the first one that is not, in the order in
which members are written, which is the order from left to right where no set holds one. At any depth, an empty
collection is a list that nothing belongs to, and null is written as what is missing. -/
theorem format_of_elements (words : Sql) (key id : Text) (short : ¬ value.HoldsLongInteger) :
    (∀ text, words.format key id value = .ok text → ∀ element ∈ value.elements, element.isUnsupported = false ∧
      ∃ part, words.format key id element = .ok part ∧ part <:+: text) ∧
    (∀ failure, words.format key id value = .error failure →
      (∃ typeName, failure = .error (.unsupportedValue id key typeName)) ∨
        ∃ message, failure = .processor message ∧ value.Holds failure) ∧
    (value.IsTold →
      ((∃ text, words.format key id value = .ok text) ↔
        ∀ element ∈ value.elements, element.isUnsupported = false) ∧
      (∀ failure, words.format key id value = .error failure ↔ ∃ element,
        value.FirstUnsupported element ∧ failure = .error (.unsupportedValue id key element.typeName)) ∧
      (value.SetsSupported → ∀ failure, words.format key id value = .error failure ↔ ∃ element,
        value.elements.find? Value.isUnsupported = some element ∧
          failure = .error (.unsupportedValue id key element.typeName))) ∧
    (∀ kind, words.format key id (.collection kind []) = .ok emptyList) ∧
    words.format key id .null = .ok nullText ∧ words.processor.substitute key id = .ok (some nullText) := by
  refine ⟨?texts, fun _ => unsupported_or_holds short, ?told, format_empty words key id, rfl, rfl⟩
  case texts =>
    intro text written element present
    exact ⟨isSupported_of_format written element present, exists_part_of_element written present⟩
  case told =>
    intro told
    refine ⟨exists_format_iff words key id short told, fun _ => format_eq_error_iff short told, ?_⟩
    intro sets failure
    simp only [← Value.firstUnsupported_iff_find? sets]
    exact format_eq_error_iff short told

/-- The first element that is not supported lies in a list behind an empty tuple and a set. An object in a set is
asked for its plain text, and then is the one that is not supported. An empty collection and null have their texts
at any depth, and a time in a zone of the caller is written with the offset that this zone tells. -/
theorem format_of_elements_nested :
    let range := Value.object "range".toList (.ok "range(0, 3)".toList) (.ok "range(0, 3)".toList)
    let time := Value.zonedTime ⟨⟨2024, 1, 31⟩, 9, 30, 0, 0, none⟩ ⟨.ok (some 3600), .ok "Zone(1)".toList⟩
    let set := Value.collection .set [.int 2, .null, .text ['a']]
    let pair := Value.collection .tuple [.record [(['n'], .int 1)], range]
    let failing := Value.list [.collection .tuple [], set, .list [.text ['x'], pair], .other "bytes".toList]
    let mixed := Value.collection .set [range, .text ['s']]
    let written := Value.list [.collection .frozenSet [], .collection .tuple [.null, .list []], time]
    (¬ failing.HoldsLongInteger ∧ failing.IsTold ∧ failing.SetsSupported ∧
      standard.format ['k'] ['q'] failing = .error (.error (.unsupportedValue ['q'] ['k'] "dict".toList))) ∧
    (¬ mixed.HoldsLongInteger ∧ mixed.IsTold ∧
      standard.format ['k'] ['q'] mixed = .error (.error (.unsupportedValue ['q'] ['k'] "range".toList))) ∧
    ¬ written.HoldsLongInteger ∧ written.IsTold ∧ standard.format ['k'] ['q'] written =
      .ok "((SELECT 1 WHERE 1=0), (NULL, (SELECT 1 WHERE 1=0)), '2024-01-31T09:30:00+01:00')".toList ∧
      ∀ element ∈ written.elements, element.isUnsupported = false := by
  intro range time set pair failing mixed written
  have small (i : Int) (digit : i.natAbs ≤ 9) : ¬ (Value.int i).HoldsLongInteger := by
    have long : 9 < 10 ^ Numeral.digitLimit := by decide +kernel
    rw [Value.holdsLongInteger_int_iff]
    omega
  have null_short : ¬ Value.null.HoldsLongInteger := nofun
  have text_short (text : Text) : ¬ (Value.text text).HoldsLongInteger := nofun
  have object_short (name : Text) (plain shown : Except Text Text) :
      ¬ (Value.object name plain shown).HoldsLongInteger := nofun
  have time_short : ¬ time.HoldsLongInteger := by
    change ¬ (Value.zonedTime _ _).HoldsLongInteger
    nofun
  have failing_short : ¬ failing.HoldsLongInteger := by
    simp [failing, set, pair, range, Value.list, Value.other, Value.holds_collection_iff, Value.holds_record_iff,
      small, null_short, text_short, object_short]
  have mixed_short : ¬ mixed.HoldsLongInteger := by
    simp [mixed, range, Value.holds_collection_iff, text_short, object_short]
  have written_short : ¬ written.HoldsLongInteger := by
    simp [written, Value.list, Value.holds_collection_iff, null_short, time_short]
  have failing_told : failing.IsTold := by decide +kernel
  have mixed_told : mixed.IsTold := by decide +kernel
  have written_told : written.IsTold := by decide +kernel
  have failing_sets : failing.SetsSupported := by decide +kernel
  have text : standard.format ['k'] ['q'] written =
      .ok "((SELECT 1 WHERE 1=0), (NULL, (SELECT 1 WHERE 1=0)), '2024-01-31T09:30:00+01:00')".toList := by
    decide +kernel
  have sorted : [range, .text ['s']].Pairwise fun first second => plainOrder first second = true := by decide +kernel
  have order : outputOrder .set [range, .text ['s']] = [] ++ range :: [.text ['s']] :=
    List.mergeSort_of_pairwise sorted
  obtain ⟨-, -, failing_all, -⟩ := format_of_elements standard ['k'] ['q'] failing_short
  obtain ⟨-, -, mixed_all, -⟩ := format_of_elements standard ['k'] ['q'] mixed_short
  obtain ⟨-, -, written_all, -⟩ := format_of_elements standard ['k'] ['q'] written_short
  obtain ⟨-, -, from_left⟩ := failing_all failing_told
  obtain ⟨-, first_fails, -⟩ := mixed_all mixed_told
  obtain ⟨supported, -⟩ := written_all written_told
  refine ⟨⟨failing_short, failing_told, failing_sets, ?_⟩, ⟨mixed_short, mixed_told, ?_⟩, written_short, written_told,
    text, supported.mp ⟨_, text⟩⟩
  · exact (from_left failing_sets _).mpr ⟨_, rfl, rfl⟩
  · exact (first_fails _).mpr ⟨range, .inside order (List.forall_mem_nil _) (.itself rfl), rfl⟩

end Sql

end QueryTemplates
