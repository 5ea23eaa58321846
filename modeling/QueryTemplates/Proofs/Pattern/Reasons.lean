import QueryTemplates.Pattern.Repetition
import QueryTemplates.Proofs.Results
import QueryTemplates.Text.Numeral

/-! # Reading parts of a pattern

A reader of a part goes on in the pattern, or refuses it, or meets a fault. What it takes from the pattern
stands there, and so does the reason for a fault. That every reader keeps to this is shown along its steps.
-/

namespace QueryTemplates.Pattern

open Reader

/-- The reason for a fault stands in the pattern. -/
inductive Fault.StandsIn (pattern : Text) : Fault → Prop
  | repetitionTooLarge {digits : Text} (there : digits <:+: pattern)
      (numeral : ∀ c ∈ digits, c.isDigit = true) (large : repeatLimit ≤ Numeral.value digits) :
      StandsIn pattern .repetitionTooLarge
  | longNumeral {digits : Text} (there : digits <:+: pattern) (numeral : ∀ c ∈ digits, c.isDigit = true)
      (long : Numeral.digitLimit < digits.length) : StandsIn pattern (.longNumeral digits.length)
  | conflictingScripts (ascii : 'a' ∈ pattern) (unicode : 'u' ∈ pattern) :
      StandsIn pattern .conflictingScripts

/-! ## Marks -/

/-- The reader is somewhere in the pattern, and the options that it has met stand there. -/
structure OnWay (pattern : Text) (state : ReaderState) : Prop where
  ahead : state.ahead <:+ Mark.ofText pattern
  ascii : state.asksAscii = true → 'a' ∈ pattern
  unicode : state.asksUnicode = true → 'u' ∈ pattern

/-- The step has led somewhere in the pattern with a good result, or the pattern is refused, or a fault is met
whose reason stands in it. -/
def Leads {α : Type} (pattern : Text) (good : α → Prop) : Except Failure (α × ReaderState) → Prop
  | .ok (result, later) => OnWay pattern later ∧ good result
  | .error (.refused _) => True
  | .error (.fault fault) => fault.StandsIn pattern

/-- From anywhere in the pattern the reader leads somewhere in the pattern. -/
def Keeps {α : Type} (pattern : Text) (reader : Reader α) (good : α → Prop) : Prop :=
  ∀ state, OnWay pattern state → Leads pattern good (reader state)

/-- The same for any result. -/
def Sound {α : Type} (pattern : Text) (reader : Reader α) : Prop := Keeps pattern reader fun _ => True

variable {pattern : Text} {α β : Type} {good : α → Prop}

/-- What is good does not matter to a failure. -/
theorem Leads.error {other : β → Prop} {failure : Failure} (failed : Leads pattern good (.error failure)) :
    Leads pattern other (.error failure) := by
  cases failure with
  | refused refusal => trivial
  | fault fault => exact failed

namespace Keeps

theorem pure {result : α} (own : good result) : Keeps pattern (pure result) good :=
  fun _ on_way => ⟨on_way, own⟩

theorem bind {first : Reader α} {second : α → Reader β} {final : β → Prop} (before : Keeps pattern first good)
    (after : ∀ result, good result → Keeps pattern (second result) final) :
    Keeps pattern (first >>= second) final := by
  intro state on_way
  have one := before state on_way
  change Leads pattern final ((first state).bind fun (result, later) => second result later)
  cases outcome : first state with
  | error failure =>
    rw [outcome] at one
    exact Leads.error one
  | ok reached =>
    rw [outcome] at one
    exact after reached.1 one.2 reached.2 one.1

theorem refuse (reason : Reason) (back : Nat) : Keeps pattern (refuse reason back) good :=
  fun _ _ => trivial

theorem refuseAt (reason : Reason) (position : Nat) : Keeps pattern (refuseAt reason position) good :=
  fun _ _ => trivial

theorem get : Keeps pattern get (OnWay pattern) := fun _ on_way => ⟨on_way, on_way⟩

theorem set {state : ReaderState} (on_way : OnWay pattern state) : Sound pattern (set state) :=
  fun _ _ => ⟨on_way, trivial⟩

theorem modify {change : ReaderState → ReaderState}
    (kept : ∀ state, OnWay pattern state → OnWay pattern (change state)) : Sound pattern (modify change) :=
  fun state on_way => ⟨kept state on_way, trivial⟩

theorem fault {cause : Fault} (reason : cause.StandsIn pattern) : Keeps pattern (fault cause) good :=
  fun _ _ => reason

end Keeps

/-! ## Marks and texts -/

theorem OnWay.mem {state : ReaderState} (on_way : OnWay pattern state) {mark : Mark}
    (ahead : mark ∈ state.ahead) : mark ∈ Mark.ofText pattern := on_way.ahead.subset ahead

theorem of_bind_eq_ok {first : Reader α} {second : α → Reader β} {state later : ReaderState} {result : β}
    (done : (first >>= second) state = .ok (result, later)) : ∃ middle reached,
      first state = .ok (middle, reached) ∧ second middle reached = .ok (result, later) := by
  obtain ⟨⟨middle, reached⟩, one, two⟩ := QueryTemplates.of_bind_eq_ok done
  exact ⟨middle, reached, one, two⟩

end QueryTemplates.Pattern
