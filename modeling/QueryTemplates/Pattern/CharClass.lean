import QueryTemplates.Pattern.Escape

/-! # Bracketed classes

The members of a class are characters, ranges and named classes. A bracket that closes counts as a member
where it comes first.
-/

namespace QueryTemplates.Pattern

open Reader

/-- A test under the rules in force. -/
def Options.test (options : Options) (negated : Bool) (items : List ClassItem) : CharTest :=
  ⟨negated, items, options.ignoreCase, options.ascii⟩

/-- What an escape is as a member of a class. -/
def Escape.item : Escape → ClassItem
  | .code value => .code value
  | .category kind negated => .category kind negated
  | .anchor _ | .recorded _ => .code 0

/-- The member of a class that a mark begins. -/
def classMember (mark : Mark) : Reader ClassItem := do
  match mark with
  | .escaped c => return (← classEscape c).item
  | .plain c => return .code c.toNat
  | .dangling => return .code 0x5C

/-- The members of a class from the next mark on, after those already read, last one first. The class
began at `start`; there are fewer than `count` marks ahead. -/
def classItems (start : Nat) : (count : Nat) → List ClassItem → Reader (List ClassItem)
  | 0, _ => refuseAt .unterminatedClass start
  | count + 1, items => do
    match ← next with
    | none => refuseAt .unterminatedClass start
    | some mark =>
      if mark = .plain ']' && !items.isEmpty then return items.reverse
      else
        let first ← classMember mark
        if ← accept '-' then
          match ← next with
          | none => refuseAt .unterminatedClass start
          | some other =>
            if other = .plain ']' then return (.code 0x2D :: first :: items).reverse
            else
              let last ← classMember other
              let refuseRange : Reader (List ClassItem) :=
                refuse (.badRange mark.text other.text) (mark.text.length + 1 + other.text.length)
              match first, last with
              | .code low, .code high =>
                if high < low then refuseRange
                else classItems start count (.range low high :: items)
              | _, _ => refuseRange
        else classItems start count (first :: items)

/-- A bracketed class, after its bracket. -/
def readClass (options : Options) : Reader Node := do
  let start := (← get).position - 1
  let negated ← accept '^'
  let items ← classItems start ((← get).ahead.length + 1) []
  return .one (options.test negated items)

end QueryTemplates.Pattern
