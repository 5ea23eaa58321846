import QueryTemplates.Pattern.Matcher

/-! # Where a match can end

Every way of matching ends at a place that what follows has accepted, and this place does not lie before
the one where the match began. The main statement is `Node.run_reaches`.
-/

namespace QueryTemplates.Pattern

variable {line : Text}

/-- A match ends where the continuation accepted, and not before its own beginning. -/
def Reaches (matcher : Matcher line) : Prop :=
  ∀ (progress : Progress line) (proceed : Continuation line) (result : Progress line),
    matcher progress proceed = some result →
      ∃ later, later.room ≤ progress.room ∧ proceed later = some result

theorem spanEnds_room {test : CharTest} {least : Nat} {most : Option Nat} {cursor : Cursor line}
    {found : List (Cursor line)} :
    ∀ later ∈ spanEnds test least most cursor found, later.room ≤ cursor.room ∨ later ∈ found := by
  fun_induction spanEnds test least most cursor found with
  | case1 cursor found =>
    intro later member
    rcases List.mem_cons.mp member with rfl | member
    · exact .inl (Nat.le_refl _)
    · exact .inr member
  | case2 cursor found least most _ extended next =>
    intro later member
    simp only [extended] at member
    split at member
    · rcases List.mem_cons.mp member with rfl | member
      · exact .inl (Nat.le_refl _)
      · exact .inr member
    · exact .inr member
  | case3 cursor found least most _ extended c after next accepted ih =>
    intro later member
    have step := Cursor.next?_room next
    rcases ih later member with bound | member
    · exact .inl (by omega)
    · simp only [extended] at member
      split at member
      · rcases List.mem_cons.mp member with rfl | member
        · exact .inl (Nat.le_refl _)
        · exact .inr member
      · exact .inr member
  | case4 cursor found least most _ extended c after next refused =>
    intro later member
    simp only [extended] at member
    split at member
    · rcases List.mem_cons.mp member with rfl | member
      · exact .inl (Nat.le_refl _)
      · exact .inr member
    · exact .inr member

theorem matchSpan_reaches (test : CharTest) (least : Nat) (most : Option Nat) (greed : Greed) :
    Reaches (matchSpan test least most greed : Matcher line) := by
  intro progress proceed result run
  have ends : ∀ cursor ∈ spanEnds test least most progress.cursor [],
      cursor.room ≤ progress.room := fun cursor member =>
    (spanEnds_room cursor member).resolve_right (List.not_mem_nil)
  cases greed with
  | greedy =>
    obtain ⟨cursor, member, accepted⟩ := List.exists_of_findSome?_eq_some run
    exact ⟨progress.moveTo cursor, ends cursor member, accepted⟩
  | reluctant =>
    obtain ⟨cursor, member, accepted⟩ := List.exists_of_findSome?_eq_some run
    exact ⟨progress.moveTo cursor, ends cursor (List.mem_reverse.mp member), accepted⟩
  | possessive =>
    obtain ⟨cursor, first, accepted⟩ := Option.bind_eq_some_iff.mp run
    exact ⟨progress.moveTo cursor, ends cursor (List.mem_of_mem_head? first), accepted⟩

theorem matchTimes_reaches {body : Matcher line} (reaches : Reaches body) (count : Nat) :
    Reaches (matchTimes body count) := by
  induction count with
  | zero => exact fun progress _ _ run => ⟨progress, Nat.le_refl _, run⟩
  | succ count ih =>
    intro progress proceed result run
    obtain ⟨middle, bound, run⟩ := reaches _ _ _ run
    obtain ⟨later, after, run⟩ := ih _ _ _ run
    exact ⟨later, Nat.le_trans after bound, run⟩

private theorem orElse_eq_some {α : Type} {first second : Option α} {a : α}
    (some_eq : (first <|> second) = some a) : first = some a ∨ second = some a := by
  cases first with
  | none => exact .inr some_eq
  | some b => exact .inl some_eq

theorem matchMost_reaches {body : Matcher line} (reaches : Reaches body) (left : Option Nat) :
    Reaches (matchMost body left) := by
  suffices bounded : ∀ (room : Nat) (left : Option Nat) (progress : Progress line), progress.room = room →
      ∀ (proceed : Continuation line) (result : Progress line),
        matchMost body left progress proceed = some result →
          ∃ later, later.room ≤ progress.room ∧ proceed later = some result from
    fun progress => bounded progress.room left progress rfl
  intro room
  induction room using Nat.strongRecOn with
  | ind room ih =>
    intro left progress same proceed result run
    rw [matchMost] at run
    split at run
    · exact ⟨progress, Nat.le_refl _, run⟩
    · rcases orElse_eq_some run with run | run
      · obtain ⟨middle, bound, run⟩ := reaches _ _ _ run
        split at run
        · next fewer =>
          obtain ⟨later, after, run⟩ := ih middle.room (same ▸ fewer) _ middle rfl _ _ run
          exact ⟨later, Nat.le_trans after bound, run⟩
        · exact ⟨middle, bound, run⟩
      · exact ⟨progress, Nat.le_refl _, run⟩

theorem matchFewest_reaches {body : Matcher line} (reaches : Reaches body) (left : Option Nat) :
    Reaches (matchFewest body left) := by
  suffices bounded : ∀ (room : Nat) (left : Option Nat) (progress : Progress line), progress.room = room →
      ∀ (proceed : Continuation line) (result : Progress line),
        matchFewest body left progress proceed = some result →
          ∃ later, later.room ≤ progress.room ∧ proceed later = some result from
    fun progress => bounded progress.room left progress rfl
  intro room
  induction room using Nat.strongRecOn with
  | ind room ih =>
    intro left progress same proceed result run
    rw [matchFewest] at run
    rcases orElse_eq_some run with run | run
    · exact ⟨progress, Nat.le_refl _, run⟩
    · split at run
      · cases run
      · obtain ⟨middle, bound, run⟩ := reaches _ _ _ run
        split at run
        · next fewer =>
          obtain ⟨later, after, run⟩ := ih middle.room (same ▸ fewer) _ middle rfl _ _ run
          exact ⟨later, Nat.le_trans after bound, run⟩
        · exact ⟨middle, bound, run⟩

/-- The first way to match ends no earlier than it began. -/
theorem Reaches.first {body : Matcher line} (reaches : Reaches body) {progress later : Progress line}
    (run : body progress some = some later) : later.room ≤ progress.room := by
  obtain ⟨place, bound, same⟩ := reaches _ _ _ run
  exact Option.some.inj same ▸ bound

theorem firstTimes_room {body : Matcher line} (reaches : Reaches body) (count : Nat)
    (progress later : Progress line) (run : firstTimes body count progress = some later) :
    later.room ≤ progress.room := by
  induction count generalizing progress with
  | zero => exact Option.some.inj run ▸ Nat.le_refl _
  | succ count ih =>
    obtain ⟨middle, first, run⟩ := Option.bind_eq_some_iff.mp run
    exact Nat.le_trans (ih middle run) (reaches.first first)

theorem firstMost_room {body : Matcher line} (reaches : Reaches body) (left : Option Nat)
    (progress : Progress line) : (firstMost body left progress).room ≤ progress.room := by
  fun_induction firstMost body left progress with
  | case1 => exact Nat.le_refl _
  | case2 => exact Nat.le_refl _
  | case3 left progress _ later run fewer ih => exact Nat.le_trans ih (reaches.first run)
  | case4 left progress _ later run _ => exact reaches.first run

theorem matchRounds_reaches {body : Matcher line} (reaches : Reaches body) (least : Nat)
    (most : Option Nat) (greed : Greed) : Reaches (matchRounds body least most greed) := by
  intro progress proceed result run
  cases greed with
  | greedy =>
    obtain ⟨middle, bound, run⟩ := matchTimes_reaches reaches least _ _ _ run
    obtain ⟨later, after, run⟩ := matchMost_reaches reaches _ _ _ _ run
    exact ⟨later, Nat.le_trans after bound, run⟩
  | reluctant =>
    obtain ⟨middle, bound, run⟩ := matchTimes_reaches reaches least _ _ _ run
    obtain ⟨later, after, run⟩ := matchFewest_reaches reaches _ _ _ _ run
    exact ⟨later, Nat.le_trans after bound, run⟩
  | possessive =>
    obtain ⟨middle, first, run⟩ := Option.bind_eq_some_iff.mp run
    exact ⟨_, Nat.le_trans (firstMost_room reaches _ _) (firstTimes_room reaches _ _ _ first), run⟩

theorem skipText?_room {same : Char → Char → Bool} {text : Text} {cursor later : Cursor line}
    (skip : skipText? same text cursor = some later) : later.room ≤ cursor.room := by
  induction text generalizing cursor with
  | nil => exact Option.some.inj skip ▸ Nat.le_refl _
  | cons c text ih =>
    rw [skipText?] at skip
    split at skip
    · cases skip
    · next d after next =>
      split at skip
      · have := ih skip
        have := Cursor.next?_room next
        omega
      · cases skip

/-- A match of a pattern ends where the continuation accepted, and not before its beginning. -/
theorem Node.run_reaches (node : Node) : Reaches (node.run : Matcher line) := by
  induction node with
  | empty => exact fun progress _ _ run => ⟨progress, Nat.le_refl _, run⟩
  | one test =>
    intro progress proceed result run
    simp only [Node.run] at run
    split at run
    · cases run
    · next c later next =>
      split at run
      · exact ⟨_, by have := Cursor.next?_room next; simp only [Progress.room, Progress.moveTo]; omega,
          run⟩
      · cases run
  | anchor condition =>
    intro progress proceed result run
    simp only [Node.run] at run
    split at run
    · exact ⟨progress, Nat.le_refl _, run⟩
    · cases run
  | seq first second ihFirst ihSecond =>
    intro progress proceed result run
    obtain ⟨middle, bound, run⟩ := ihFirst _ _ _ run
    obtain ⟨later, after, run⟩ := ihSecond _ _ _ run
    exact ⟨later, Nat.le_trans after bound, run⟩
  | either first second ihFirst ihSecond =>
    intro progress proceed result run
    rcases orElse_eq_some run with run | run
    · exact ihFirst _ _ _ run
    · exact ihSecond _ _ _ run
  | span test least most greed => exact matchSpan_reaches test least most greed
  | rounds body least most greed ih => exact matchRounds_reaches ih least most greed
  | group index body ih =>
    intro progress proceed result run
    obtain ⟨later, bound, run⟩ := ih _ _ _ run
    exact ⟨later.endGroup index, bound, run⟩
  | recorded index ignoreCase ascii =>
    intro progress proceed result run
    simp only [Node.run] at run
    split at run
    · cases run
    · obtain ⟨later, skip, run⟩ := Option.bind_eq_some_iff.mp run
      exact ⟨progress.moveTo later, skipText?_room skip, run⟩
  | given index present absent ihPresent ihAbsent =>
    intro progress proceed result run
    simp only [Node.run] at run
    split at run
    · exact ihPresent _ _ _ run
    · exact ihAbsent _ _ _ run
  | atomic body ih =>
    intro progress proceed result run
    obtain ⟨later, first, run⟩ := Option.bind_eq_some_iff.mp run
    exact ⟨later, Reaches.first ih first, run⟩
  | ahead negated body ih =>
    intro progress proceed result run
    simp only [Node.run] at run
    split at run
    · next later _ => exact ⟨later.moveTo progress.cursor, Nat.le_refl _, run⟩
    · exact ⟨progress, Nat.le_refl _, run⟩
    · cases run
  | behind negated width body ih =>
    intro progress proceed result run
    simp only [Node.run] at run
    split at run
    · next later _ => exact ⟨later.moveTo progress.cursor, Nat.le_refl _, run⟩
    · exact ⟨progress, Nat.le_refl _, run⟩
    · cases run

end QueryTemplates.Pattern
