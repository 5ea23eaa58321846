import Mathlib.Data.List.TakeWhile
import QueryTemplates.Json.Reader
import QueryTemplates.Proofs.Dictionary
import QueryTemplates.Proofs.Rendering.Failures

/-! # What JSON texts mean

The reader of JSON gives only some documents: no integer in them is too long, and the names of the fields of a
record differ. Nothing in the value of such a document fails when it is written.
-/

namespace QueryTemplates

namespace Json

/-! ## Documents -/

/-- A document that a JSON text can describe. -/
inductive IsRead : Document → Prop
  | null : IsRead .null
  | bool (value : Bool) : IsRead (.bool value)
  | string (codes : Codes) : IsRead (.string codes)
  | float (value : Binary64) : IsRead (.float value)
  | int {i : Int} (short : i.natAbs < 10 ^ Numeral.digitLimit) : IsRead (.int i)
  | list {members : List Document} (all : ∀ member ∈ members, IsRead member) : IsRead (.list members)
  | record {fields : List (Codes × Document)} (distinct : (fields.map (·.1)).Nodup)
      (all : ∀ field ∈ fields, IsRead field.2) : IsRead (.record fields)

/-! ## Scalars -/

theorem isDigit_of_wholeDigits {text : Text} : ∀ c ∈ wholeDigits text, c.isDigit = true := by
  intro c member
  cases text with
  | nil => cases member
  | cons first rest =>
    rw [wholeDigits] at member
    split at member
    · next zero =>
      rw [List.mem_singleton.mp member, zero]
      rfl
    · exact List.mem_takeWhile_imp member

theorem value_wholeDigits_lt {text : Text} (short : ¬ Numeral.digitLimit < (wholeDigits text).length) :
    Numeral.value (wholeDigits text) < 10 ^ Numeral.digitLimit :=
  Nat.lt_of_lt_of_le (Numeral.value_lt isDigit_of_wholeDigits)
    (Nat.pow_le_pow_right (by decide) (Nat.le_of_not_lt short))

theorem isRead_of_readNumber {place after : Place} {document : Document}
    (done : readNumber place = .ok (document, after)) : IsRead document := by
  simp only [readNumber] at done
  split at done
  · cases done
  · split at done
    · split at done
      · cases done
      · next short =>
        cases done
        apply IsRead.int
        split
        · exact value_wholeDigits_lt short
        · rw [Int.natAbs_neg]
          exact value_wholeDigits_lt short
    · split at done
      · cases done
        exact .float _
      · cases done

theorem isRead_of_words : ∀ entry ∈ words, IsRead entry.2 := by
  simp only [words, List.forall_mem_cons]
  exact ⟨.null, .bool true, .bool false, .float _, .float _, .float _, nofun⟩

theorem isRead_of_readScalar {place after : Place} {document : Document}
    (done : readScalar place = .ok (document, after)) : IsRead document := by
  rw [readScalar] at done
  split at done
  · next word own found =>
    cases done
    exact isRead_of_words _ (List.mem_of_find?_eq_some found)
  · exact isRead_of_readNumber done

/-! ## Lists and records -/

mutual

theorem isRead_of_readDocument : (fuel : Nat) → {place after : Place} → {document : Document} →
    readDocument fuel place = .ok (document, after) → IsRead document
  | 0, _, _, _, done => by cases done
  | fuel + 1, place, after, document, done => by
    rw [readDocument] at done
    split at done
    · obtain ⟨read, -, same⟩ := map_eq_ok.mp done
      cases same
      exact .string _
    · dsimp only at done
      split at done
      · cases done
        exact .list (List.forall_mem_nil _)
      · exact isRead_of_readMembers fuel done (List.forall_mem_nil _)
    · dsimp only at done
      split at done
      · cases done
        exact .record List.nodup_nil (List.forall_mem_nil _)
      · exact isRead_of_readFields fuel done List.nodup_nil (List.forall_mem_nil _)
    · exact isRead_of_readScalar done

theorem isRead_of_readMembers : (fuel : Nat) → {earlier : List Document} → {place after : Place} →
    {document : Document} → readMembers fuel earlier place = .ok (document, after) →
    (∀ member ∈ earlier, IsRead member) → IsRead document
  | 0, _, _, _, _, done, _ => by cases done
  | fuel + 1, earlier, place, after, document, done, values => by
    rw [readMembers] at done
    split at done
    · cases done
    · next member _ one =>
      have more : ∀ other ∈ member :: earlier, IsRead other :=
        List.forall_mem_cons.mpr ⟨isRead_of_readDocument fuel one, values⟩
      dsimp only at done
      split at done
      · cases done
        exact .list fun other present => more other (List.mem_reverse.mp present)
      · exact isRead_of_readMembers fuel done more
      · cases done

theorem isRead_of_readFields : (fuel : Nat) → {earlier : List (Codes × Document)} → {place after : Place} →
    {document : Document} → readFields fuel earlier place = .ok (document, after) → (earlier.map (·.1)).Nodup →
    (∀ field ∈ earlier, IsRead field.2) → IsRead document
  | 0, _, _, _, _, done, _, _ => by cases done
  | fuel + 1, earlier, place, after, document, done, distinct, values => by
    rw [readFields] at done
    split at done
    · split at done
      · cases done
      · next name _ _ =>
        dsimp only at done
        split at done
        · split at done
          · cases done
          · next member _ one =>
            have member_value := isRead_of_readDocument fuel one
            have more : ∀ field ∈ Dictionary.putEntry name member earlier, IsRead field.2 := by
              intro field present
              rcases Dictionary.mem_putEntry present with rfl | before
              · exact member_value
              · exact values field before
            split at done
            · cases done
              exact .record (Dictionary.nodup_putEntry distinct) more
            · exact isRead_of_readFields fuel done (Dictionary.nodup_putEntry distinct) more
            · cases done
        · cases done
    · cases done

end

theorem Document.values_eq_map (members : List Document) : values members = members.map value := by
  induction members with
  | nil => rfl
  | cons member rest ih => rw [values, List.map_cons, ih]

theorem Document.fieldValues_eq_map (fields : List (Codes × Document)) :
    fieldValues fields = fields.map fun field => (field.1.text, field.2.value) := by
  induction fields with
  | nil => rfl
  | cons field rest ih => rw [fieldValues, List.map_cons, ih]

/-- No integer in the value is too long to be written, and nothing in it has code of its own. -/
theorem IsRead.not_holds {document : Document} (read : IsRead document) (failure : RenderFailure) :
    ¬ document.value.Holds failure := by
  induction read with
  | null | bool | string | float => exact nofun
  | int short =>
    rintro ⟨long⟩
    exact Nat.not_lt.mpr long short
  | list _ ih =>
    rw [Document.value, Document.values_eq_map, Value.list, Value.holds_collection_iff]
    rintro ⟨_, present, holds⟩
    obtain ⟨member, among, rfl⟩ := List.mem_map.mp present
    exact ih member among holds
  | record _ _ ih =>
    rw [Document.value, Document.fieldValues_eq_map, Value.holds_record_iff]
    rintro ⟨_, present, holds⟩
    obtain ⟨field, among, rfl⟩ := List.mem_map.mp present
    exact ih field among holds

end Json

end QueryTemplates
