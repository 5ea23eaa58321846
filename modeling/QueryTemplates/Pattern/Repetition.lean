import QueryTemplates.Pattern.ReaderState

/-! # Repetitions

A repetition mark gives bounds, and perhaps says how to choose between them. Braces that hold no bounds are
literal. A place cannot be repeated, nor can a repetition, unless it stands in a group.
-/

namespace QueryTemplates.Pattern

open Reader

/-- A member of a sequence. A repetition and a place cannot be repeated unless they stand in a group. -/
inductive Item
  | plain (node : Node)
  | place (node : Node)
  | repetition (node : Node)

/-- The pattern of an item. -/
def Item.node : Item → Node
  | .plain node | .place node | .repetition node => node

/-- The largest number of rounds, and one more. -/
def repeatLimit : Nat := 4294967295

/-- A bound of a repetition. -/
def readBound (digits : Text) : Reader Nat := do
  let count ← number digits
  if count < repeatLimit then return count else fault .repetitionTooLarge

/-- The bounds of a repetition in braces, after the opening one; none where the braces are literal. -/
def braceBounds : Reader (Option (Nat × Option Nat)) := do
  let state ← get
  if state.ahead.head? = some (.plain '\x7d') then return none
  else
    let low ← takeAll Char.isDigit
    let comma ← accept ','
    let high ← if comma then takeAll Char.isDigit else pure low
    if ← accept '\x7d' then
      let least ← if low.isEmpty then pure 0 else readBound low
      if high.isEmpty then return some (least, none)
      else
        let most ← readBound high
        if most < least then refuseAt .crossedBounds state.position
        else return some (least, some most)
    else
      set state
      return none

/-- The bounds that a repetition mark stands for. -/
def repeatBounds (c : Char) : Reader (Option (Nat × Option Nat)) :=
  match c with
  | '?' => return some (0, some 1)
  | '*' => return some (0, none)
  | '+' => return some (1, none)
  | _ => braceBounds

/-- The pattern repeated. -/
def Node.times (node : Node) (least : Nat) (most : Option Nat) (greed : Greed) : Node :=
  match node with
  | .one test => .span test least most greed
  | node => .rounds node least most greed

/-- How a repetition chooses, by the mark after it. -/
def readGreed : Reader Greed := do
  if ← accept '?' then return .reluctant
  else if ← accept '+' then return .possessive
  else return .greedy

/-- The items after a repetition mark has been read, which stands at `start`. -/
def repeatLast (start : Nat) (least : Nat) (most : Option Nat) (items : List Item) :
    Reader (List Item) := do
  match items with
  | [] | .place _ :: _ => refuseAt .nothingToRepeat start
  | .repetition _ :: _ => refuseAt .multipleRepeat start
  | .plain node :: rest =>
    return .repetition (node.times least most (← readGreed)) :: rest

end QueryTemplates.Pattern
