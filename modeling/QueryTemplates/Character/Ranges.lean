/-! # Tables of character ranges

A character class is an ascending array of inclusive code point ranges, looked up by bisection.
-/

namespace QueryTemplates.Character

/-- Bisection among the ranges with index from `low` up to but not including `high`. -/
def inRangesBetween (ranges : Array (Nat × Nat)) (code low high : Nat) : Bool :=
  if low < high then
    let middle := (low + high) / 2
    match ranges[middle]? with
    | none => false
    | some (first, last) =>
      if code < first then inRangesBetween ranges code low middle
      else if last < code then inRangesBetween ranges code (middle + 1) high
      else true
  else false
termination_by high - low

/-- The code point lies in one of the ranges, which ascend. -/
def inRanges (ranges : Array (Nat × Nat)) (code : Nat) : Bool :=
  inRangesBetween ranges code 0 ranges.size

end QueryTemplates.Character
