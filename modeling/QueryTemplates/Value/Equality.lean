import QueryTemplates.Value.Text

/-! # Equal values

Members of sets are equal when they denote the same thing: numbers by their exact value, whatever their
kind, where truth values count as one and zero; texts, dates and times among themselves, times by their
moments; tuples member by member and sets by their members. No not-a-number is equal to anything.
-/

namespace QueryTemplates

/-- A number by its exact value: `core · 2 ^ twos · 5 ^ fives`, where the core has neither factor. Zero
has no sign. -/
inductive ExactNumber
  | finite (negative : Bool) (core : Nat) (twos fives : Int)
  | infinite (negative : Bool)
deriving DecidableEq

/-- A number without the factors `base`, and how many those are. Zero has none. -/
def stripFactors (base n : Nat) (count : Nat) : Nat × Nat :=
  if h : 2 ≤ base ∧ n ≠ 0 ∧ n % base = 0 then stripFactors base (n / base) (count + 1) else (n, count)
termination_by n
decreasing_by exact Nat.div_lt_self (Nat.pos_of_ne_zero h.2.1) h.1

namespace ExactNumber

/-- The value `coefficient · 2 ^ twos · 5 ^ fives`. -/
def ofParts (negative : Bool) (coefficient : Nat) (twos fives : Int) : ExactNumber :=
  if coefficient = 0 then .finite false 0 0 0
  else
    let (odd, moreTwos) := stripFactors 2 coefficient 0
    let (core, moreFives) := stripFactors 5 odd 0
    .finite negative core (twos + moreTwos) (fives + moreFives)

/-- The value of an integer. -/
def ofInt (value : Int) : ExactNumber := ofParts (decide (value < 0)) value.natAbs 0 0

/-- The number that a value denotes. -/
def ofValue? : Value → Option ExactNumber
  | .bool value => some (ofInt (if value then 1 else 0))
  | .int value => some (ofInt value)
  | .float (.finite negative mantissa exponent) => some (ofParts negative mantissa exponent 0)
  | .float (.infinite negative) => some (.infinite negative)
  | .decimal (.finite value) =>
    some (ofParts value.negative value.coefficient value.exponent value.exponent)
  | .decimal (.infinite negative) => some (.infinite negative)
  | _ => none

end ExactNumber

namespace Value

/-- Both values denote the same number. -/
def sameNumber (first second : Value) : Bool :=
  match ExactNumber.ofValue? first, ExactNumber.ofValue? second with
  | some first, some second => first == second
  | _, _ => false

/-- The time that a value is, if its offset can be told. -/
def time? : Value → Option DateTime
  | .dateTime time => some time
  | .zonedTime time zone => (zone.place time).toOption
  | _ => none

/-- Both values are times of the same moment. -/
def sameTime (first second : Value) : Bool :=
  match first.time?, second.time? with
  | some first, some second => first.sameMoment second
  | _, _ => false

mutual

/-- The values are equal members of a set. -/
def same : Value → Value → Bool
  | .null, .null => true
  | .text first, .text second => first == second
  | .date first, .date second => first == second
  | .collection .tuple first, .collection .tuple second => sameInOrder first second
  | .collection .frozenSet first, .collection .frozenSet second =>
    first.length == second.length && allAmong first second
  | first, second => sameNumber first second || sameTime first second

/-- The values are equal one by one. -/
def sameInOrder : List Value → List Value → Bool
  | [], [] => true
  | first :: rest, second :: others => same first second && sameInOrder rest others
  | _, _ => false

/-- Every value is equal to one of the others. -/
def allAmong : List Value → List Value → Bool
  | [], _ => true
  | first :: rest, others => others.any (same first) && allAmong rest others

end

/-- The members without those that are equal to an earlier one. -/
def distinct (members : List Value) : List Value :=
  members.foldl (fun kept value => if kept.any (same value) then kept else kept ++ [value]) []

/-- The set of the given members: of equal ones the first is kept. -/
def setOf (kind : CollectionKind) (members : List Value) : Value :=
  .collection kind (if kind.isSet then distinct members else members)

end Value

end QueryTemplates
