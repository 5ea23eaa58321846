import QueryTemplates.Proofs.Processor.Support
import QueryTemplates.Proofs.Text.Order
import QueryTemplates.Value.Equality

/-! # Texts of sets

Members of a set whose plain texts differ have one order only in which these texts increase. It is the order in
which the set is written, whatever the order in which its members were put into it.
-/

namespace QueryTemplates

namespace Value

variable {value first second : Value} {members other : List Value} {kind : CollectionKind}

/-! ## Equal values -/

theorem sameNumber_comm (first second : Value) : first.sameNumber second = second.sameNumber first := by
  simp only [sameNumber]
  cases ExactNumber.ofValue? first <;> cases ExactNumber.ofValue? second <;> simp [Bool.beq_comm]

theorem sameTime_comm (first second : Value) : first.sameTime second = second.sameTime first := by
  simp only [sameTime]
  cases first.time? <;> cases second.time? <;> simp [DateTime.sameMoment, Bool.beq_comm]

theorem sameInOrder_comm (each : ∀ member ∈ members, ∀ value, member.same value = value.same member) :
    sameInOrder members other = sameInOrder other members := by
  induction members generalizing other with
  | nil => cases other <;> rfl
  | cons member rest ih =>
    cases other with
    | nil => rfl
    | cons value others =>
      rw [List.forall_mem_cons] at each
      rw [sameInOrder, sameInOrder, each.1, ih each.2]

/-- Where no set lies in one of two values, it does not matter which of them is the first. -/
theorem same_comm (ordered : ∀ element ∈ first.elements, element.isSet = false) (second : Value) :
    first.same second = second.same first := by
  induction first using Value.induction_on_members generalizing second with
  | step first ih =>
    fun_cases Value.same first second with
    | case1 => rfl
    | case2 | case3 => exact Bool.beq_comm
    | case4 members others =>
      rw [same]
      apply sameInOrder_comm
      intro member present
      apply ih member present
      intro element inner
      exact ordered element (mem_elements_of_member present inner)
    | case5 members others => cases ordered _ (mem_elements_self _)
    | case6 first second null text date tuple set =>
      -- numbers, times, or values of two kinds: the other way round they are no pair of one kind either
      rw [sameNumber_comm, sameTime_comm, same]
      · exact fun left right => null right left
      · exact fun one more left right => text more one right left
      · exact fun one more left right => date more one right left
      · exact fun one more left right => tuple more one right left
      · exact fun one more left right => set more one right left

/-- Members of which none is equal to an earlier one are all kept. -/
theorem distinct_eq_self (unequal : members.Pairwise fun first second => second.same first = false) :
    distinct members = members := by
  -- what is kept so far is in front of the members to come
  have all (kept rest : List Value)
      (unequal : (kept ++ rest).Pairwise fun first second => second.same first = false) :
      rest.foldl (fun kept value => if kept.any (same value) then kept else kept ++ [value]) kept = kept ++ rest := by
    induction rest generalizing kept with
    | nil => exact (List.append_nil kept).symm
    | cons value rest ih =>
      have new : kept.any (same value) = false := by
        rw [List.any_eq_false]
        intro earlier among equal
        have := (List.pairwise_append.mp unequal).2.2 earlier among value (List.mem_cons_self ..)
        exact Bool.false_ne_true (this.symm.trans equal)
      rw [List.foldl_cons, new, if_neg Bool.false_ne_true, ih, List.append_assoc, List.singleton_append]
      rwa [List.append_assoc, List.singleton_append]
  exact all [] members unequal

/-- A set of members of which no two are equal has these members, in whichever order they are put into it. -/
theorem setOf_eq_of_perm (ordered : ∀ member ∈ members, ∀ element ∈ member.elements, element.isSet = false)
    (unequal : members.Pairwise fun first second => first.same second = false) (perm : other.Perm members) :
    setOf kind other = .collection kind other := by
  have both : members.Pairwise fun first second => first.same second = false ∧ second.same first = false := by
    apply unequal.imp_of_mem
    intro first second present _ different
    exact ⟨different, (same_comm (ordered first present) second).symm.trans different⟩
  have kept : distinct other = other := by
    apply distinct_eq_self
    exact ((perm.pairwise_iff And.symm).mpr both).imp And.right
  rw [setOf, kept, ite_self]

/-! ## Members of sets -/

/-- Nothing, a truth value, an integer that is not too long, or a text. -/
inductive IsSimple : Value → Prop
  | null : IsSimple .null
  | bool (value : Bool) : IsSimple (.bool value)
  | int {value : Int} (short : value.natAbs < 10 ^ Numeral.digitLimit) : IsSimple (.int value)
  | text (value : Text) : IsSimple (.text value)

/-- What a set is made of here: simple values, other numbers, dates and times, and tuples of simple values. A
not-a-number that signals is no member of a set, and neither is a time whose zone does not tell its offset. -/
inductive IsMember : Value → Prop
  | simple {value : Value} (simple : value.IsSimple) : IsMember value
  | float (value : Binary64) : IsMember (.float value)
  | decimal {value : Decimal} (quiet : ∀ negative payload, value ≠ .nan negative true payload) :
      IsMember (.decimal value)
  | date (value : Date) : IsMember (.date value)
  | dateTime (value : DateTime) : IsMember (.dateTime value)
  | zonedTime {time : DateTime} {zone : Zone} {offset : Option Int} (told : zone.offset = .ok offset) :
      IsMember (.zonedTime time zone)
  | tuple {members : List Value} (simple : ∀ member ∈ members, member.IsSimple) :
      IsMember (.collection .tuple members)

/-- What a simple value holds does not fail. -/
theorem IsSimple.not_holds (simple : value.IsSimple) (failure : RenderFailure) : ¬ value.Holds failure := by
  cases simple with
  | int short =>
    rintro ⟨long⟩
    exact absurd long (Nat.not_le.mpr short)
  | null | bool _ | text _ => exact nofun

theorem not_holds_of_simple_members (simple : ∀ member ∈ members, member.IsSimple) (failure : RenderFailure) :
    ¬ (collection kind members).Holds failure := by
  rw [holds_collection_iff]
  rintro ⟨member, present, holds⟩
  exact (simple member present).not_holds failure holds

theorem IsMember.short (allowed : value.IsMember) : ¬ value.HoldsLongInteger := by
  cases allowed with
  | simple simple => exact simple.not_holds _
  | tuple simple => exact not_holds_of_simple_members simple _
  | float _ | decimal _ | date _ | dateTime _ | zonedTime _ => exact nofun

theorem exists_plainText_of_not_holds (none : ∀ failure, ¬ value.Holds failure) :
    ∃ plain, value.plainText = .ok plain := by
  cases plain : value.plainText with
  | ok text => exact ⟨text, rfl⟩
  | error failure => exact absurd (holds_of_plainText plain) (none failure)

theorem IsMember.exists_plainText (allowed : value.IsMember) : ∃ plain, value.plainText = .ok plain := by
  cases allowed with
  | simple simple => exact exists_plainText_of_not_holds simple.not_holds
  | tuple simple => exact exists_plainText_of_not_holds (not_holds_of_simple_members simple)
  | zonedTime told =>
    obtain ⟨placed, located⟩ := exists_place told
    exact ⟨_, map_eq_ok.mpr ⟨placed, located, rfl⟩⟩
  | float _ | decimal _ | date _ | dateTime _ => exact ⟨_, rfl⟩

theorem IsSimple.elements_eq (simple : value.IsSimple) : value.elements = [value] := by
  cases simple <;> rfl

theorem IsMember.elements (allowed : value.IsMember) :
    ∀ element ∈ value.elements, element.isUnsupported = false ∧ element.isSet = false ∧ element.tells = true := by
  have alone {value : Value} (simple : value.IsSimple) :
      value.isUnsupported = false ∧ value.isSet = false ∧ value.tells = true := by
    cases simple <;> exact ⟨rfl, rfl, rfl⟩
  cases allowed with
  | simple simple =>
    rw [simple.elements_eq, List.forall_mem_singleton]
    exact alone simple
  | tuple simple =>
    rw [elements_collection, List.forall_mem_cons]
    refine ⟨⟨rfl, rfl, rfl⟩, fun element inner => ?_⟩
    obtain ⟨member, present, inner⟩ := List.mem_flatMap.mp inner
    rw [(simple member present).elements_eq, List.mem_singleton] at inner
    exact inner ▸ alone (simple member present)
  | zonedTime told => exact List.forall_mem_singleton.mpr ⟨rfl, rfl, isOk_iff.mpr ⟨_, told⟩⟩
  | float _ | decimal _ | date _ | dateTime _ => exact List.forall_mem_singleton.mpr ⟨rfl, rfl, rfl⟩

/-- What is asked about a set of allowed members is told. -/
theorem isTold_of_members (allowed : ∀ member ∈ members, member.IsMember) :
    (Value.collection kind members).IsTold := by
  rw [IsTold, elements_collection, List.forall_mem_cons]
  constructor
  · rw [tells, Bool.or_eq_true, List.all_eq_true]
    exact .inr fun member among => isOk_iff.mpr (allowed member among).exists_plainText
  · intro element inner
    obtain ⟨member, among, inner⟩ := List.mem_flatMap.mp inner
    exact ((allowed member among).elements element inner).2.2

end Value

namespace Sql

open List (Forall₂)

variable {words : Sql} {key id : Text} {kind : CollectionKind} {members other : List Value}

/-! ## The order of members -/

theorem text?_eq_some {value : Value} (allowed : value.IsMember) : value.text? = some (sortKey value) := by
  obtain ⟨text, plain⟩ := allowed.exists_plainText
  rw [sortKey, Value.text?, plain]
  rfl

theorem map_sortKey_mergeSort (members : List Value) :
    (members.mergeSort plainOrder).map sortKey = (members.map sortKey).mergeSort Text.precedes :=
  List.map_mergeSort fun _ _ _ _ => rfl

theorem pairwise_plainOrder_mergeSort (members : List Value) :
    (members.mergeSort plainOrder).Pairwise fun first second => plainOrder first second = true := by
  apply List.pairwise_mergeSort
  · intro first second third before after
    exact Text.precedes_trans before after
  · exact fun _ _ => Text.precedes_total _ _

/-- Members whose keys differ are sorted alike in whichever order they are given. -/
theorem mergeSort_plainOrder_of_perm (different : (members.map sortKey).Nodup) (perm : other.Perm members) :
    other.mergeSort plainOrder = members.mergeSort plainOrder := by
  apply List.Perm.eq_of_pairwise
  · intro first second among others before after
    have first_member := perm.mem_iff.mp ((List.mergeSort_perm other plainOrder).mem_iff.mp among)
    have second_member := (List.mergeSort_perm members plainOrder).mem_iff.mp others
    exact List.inj_on_of_nodup_map different first_member second_member (Text.precedes_antisymm before after)
  · exact pairwise_plainOrder_mergeSort other
  · exact pairwise_plainOrder_mergeSort members
  · exact (List.mergeSort_perm other plainOrder).trans (perm.trans (List.mergeSort_perm members plainOrder).symm)

/-! ## The text of a set -/

/-- Allowed members all have texts, in whichever order they are written. -/
theorem exists_texts (words : Sql) (key id : Text) (allowed : ∀ member ∈ members, member.IsMember) :
    ∃ texts, members.mapM (words.format key id) = .ok texts := by
  apply exists_mapM_iff.mpr
  intro member among
  have own := allowed member among
  have told : member.IsTold := fun element inner => (own.elements element inner).2.2
  exact (exists_format_iff words key id own.short told).mpr fun element inner => (own.elements element inner).1

/-- A set of allowed members is written in the order of their keys. -/
theorem format_setOf (allowed : ∀ member ∈ members, member.IsMember)
    (unequal : members.Pairwise fun first second => first.same second = false)
    (different : (members.map sortKey).Nodup) (set : kind.isSet = true) (perm : other.Perm members) :
    words.format key id (Value.setOf kind other) =
      ((members.mergeSort plainOrder).mapM (words.format key id)).map collectionText := by
  have told : (Value.collection kind other).IsTold :=
    Value.isTold_of_members fun member among => allowed member (perm.mem_iff.mp among)
  have kept : Value.setOf kind other = .collection kind other := by
    refine Value.setOf_eq_of_perm (fun member among element inner => ?_) unequal perm
    exact ((allowed member among).elements element inner).2.1
  rw [kept, format_collection_eq told, outputOrder, if_pos set, mergeSort_plainOrder_of_perm different perm]

/-- A set of members that are not equal and have different plain texts is written as the list of its members in
the order in which these texts increase, whichever kind of set it is and in whichever order the members were put
into it. -/
theorem format_setOf_of_perm (words : Sql) (key id : Text) (some_member : members ≠ [])
    (allowed : ∀ member ∈ members, member.IsMember)
    (unequal : members.Pairwise fun first second => first.same second = false)
    (different : (members.map Value.text?).Nodup) :
    ∃ (order : List Value) (plain texts : List Text),
      order.Perm members ∧ order.map Value.text? = plain.map some ∧ plain.Pairwise (· < ·) ∧
      Forall₂ (fun member text => words.format key id member = .ok text) order texts ∧
      ∀ kind other, kind.isSet = true → other.Perm members →
        words.format key id (Value.setOf kind other) = .ok (listText texts) := by
  have keys_of {order : List Value} (perm : order.Perm members) :
      order.map Value.text? = (order.map sortKey).map some := by
    rw [List.map_map]
    exact List.map_congr_left fun member among => text?_eq_some (allowed member (perm.mem_iff.mp among))
  have distinct : (members.map sortKey).Nodup := by
    rw [keys_of (.refl _)] at different
    exact different.of_map some
  have perm := List.mergeSort_perm members plainOrder
  obtain ⟨texts, all⟩ := exists_texts words key id fun member among => allowed member (perm.mem_iff.mp among)
  refine ⟨members.mergeSort plainOrder, _, texts, perm, keys_of perm, ?_, mapM_eq_ok_iff.mp all, ?_⟩
  · rw [map_sortKey_mergeSort]
    exact Text.pairwise_lt_mergeSort distinct
  · intro kind other set same
    rw [format_setOf allowed unequal distinct set same, all]
    cases texts with
    | nil =>
      rw [List.forall₂_nil_right_iff.mp (mapM_eq_ok_iff.mp all)] at perm
      exact absurd perm.nil_eq.symm some_member
    | cons text others => rfl

/-- Keys are compared as texts, so that ten comes before nine and null after the text that reads like it. -/
theorem format_setOf_of_perm_mixed :
    let members : List Value :=
      [.collection .tuple [.bool true, .text ['x']], .int 10, .int 9, .text "NULL".toList, .null]
    ∀ other, other.Perm members → ∀ kind, kind = .set ∨ kind = .frozenSet →
      standard.format ['k'] ['q'] (Value.setOf kind other) = .ok "((TRUE, 'x'), 10, 9, 'NULL', NULL)".toList := by
  intro members
  have long : 10 < 10 ^ Numeral.digitLimit := by decide +kernel
  have allowed : ∀ member ∈ members, member.IsMember := by
    simp only [members, List.forall_mem_cons]
    refine ⟨.tuple ?_, .simple (.int long), .simple (.int (Nat.lt_trans (by decide) long)), .simple (.text _),
      .simple .null, nofun⟩
    simp only [List.forall_mem_cons]
    exact ⟨.bool true, .text _, nofun⟩
  have unequal : members.Pairwise fun first second => first.same second = false := by decide +kernel
  have some_member : members ≠ [] := nofun
  obtain ⟨_, _, texts, -, -, -, -, written⟩ :=
    format_setOf_of_perm standard ['k'] ['q'] some_member allowed unequal (by decide +kernel)
  have sorted : members.mergeSort plainOrder = members := List.mergeSort_of_pairwise (by decide +kernel)
  have text : standard.format ['k'] ['q'] (Value.setOf .set members) =
      .ok "((TRUE, 'x'), 10, 9, 'NULL', NULL)".toList := by
    rw [format_setOf allowed unequal (by decide +kernel) rfl (.refl _), sorted]
    decide +kernel
  have same := (written .set members rfl (.refl _)).symm.trans text
  intro other other_perm kind set
  rw [← same]
  apply written kind other _ other_perm
  rcases set with rfl | rfl <;> rfl

end Sql

end QueryTemplates
