import QueryTemplates.Pattern.Node

/-! # Widths of patterns

The least and the largest number of characters that a pattern can cover, up to a bound that stands for
every larger number.
-/

namespace QueryTemplates.Pattern

/-- The least and the largest length of a match. -/
structure Width where
  least : Nat
  most : Nat
deriving DecidableEq

namespace Width

/-- The bound that stands for every larger length. -/
def bound : Nat := Nat.pow 2 64

/-- One match after another. -/
def add (first second : Width) : Width :=
  ⟨min (first.least + second.least) bound, min (first.most + second.most) bound⟩

/-- A match of one of two patterns. -/
def either (first second : Width) : Width :=
  ⟨min first.least second.least, max first.most second.most⟩

/-- A number of matches one after another. -/
def rounds (body : Width) (least : Nat) (most : Option Nat) : Width :=
  ⟨min (body.least * least) bound,
    match most with
    | some most => min (body.most * most) bound
    | none => if body.most = 0 then 0 else bound⟩

end Width

/-- The width of a pattern, given those of the groups that it recalls. -/
def Node.width (groups : Nat → Width) : Node → Width
  | .empty => ⟨0, 0⟩
  | .one _ => ⟨1, 1⟩
  | .anchor _ => ⟨0, 0⟩
  | .seq first second => (first.width groups).add (second.width groups)
  | .either first second => (first.width groups).either (second.width groups)
  | .span _ least most _ => Width.rounds ⟨1, 1⟩ least most
  | .rounds body least most _ => (body.width groups).rounds least most
  | .group _ body => body.width groups
  | .recorded index _ _ => groups index
  | .given _ present absent => (present.width groups).either (absent.width groups)
  | .atomic body => body.width groups
  | .ahead _ _ => ⟨0, 0⟩
  | .behind _ _ _ => ⟨0, 0⟩

end QueryTemplates.Pattern
