import QueryTemplates.Pattern.Error
import QueryTemplates.Pattern.Mark
import QueryTemplates.Pattern.Width

/-! # The reader of patterns

What is known while a pattern is read, and the steps that take marks. A backslash at the very end is refused
as soon as the mark before it has been read.
-/

namespace QueryTemplates.Pattern

/-- The rules in force at a place of a pattern. -/
structure Options where
  ignoreCase : Bool
  multiline : Bool
  dotAll : Bool
  verbose : Bool
  ascii : Bool

/-- The rules that hold when a pattern says nothing else. -/
def Options.default : Options := ⟨false, false, false, false, false⟩

/-- What the reader knows: the marks ahead and where they start, the rules for the whole pattern and
whether they ask for ASCII or for all scripts, the groups with their widths once they are closed, their
names, the number of groups known before the look-behind being read, the groups that conditions ask for,
and whether a look-behind without a fixed width was met. -/
structure ReaderState where
  ahead : List Mark
  position : Nat
  options : Options
  asksAscii : Bool
  asksUnicode : Bool
  groups : List (Option Width)
  names : List (Text × Nat)
  lookBehind : Option Nat
  conditions : List (Nat × Nat)
  variableLookBehind : Bool

/-- A step of the reader. -/
abbrev Reader := StateT ReaderState (Except Failure)

namespace Reader

/-- Refuses the pattern at a number of characters before the next mark. -/
def refuse {α : Type} (reason : Reason) (back : Nat) : Reader α := fun state =>
  .error (.refused ⟨reason, some (state.position - back)⟩)

/-- Refuses the pattern at a place. -/
def refuseAt {α : Type} (reason : Reason) (position : Nat) : Reader α := fun _ =>
  .error (.refused ⟨reason, some position⟩)

/-- Ends with a fault. -/
def fault {α : Type} (fault : Fault) : Reader α := fun _ => .error (.fault fault)

/-- The next mark. -/
def peek : Reader (Option Mark) := fun state => .ok (state.ahead.head?, state)

/-- The next mark, passed over. A dangling backslash after it is refused. -/
def next : Reader (Option Mark) := fun state =>
  match state.ahead with
  | [] => .ok (none, state)
  | mark :: rest =>
    let position := state.position + mark.text.length
    if rest = [.dangling] then .error (.refused ⟨.danglingEscape, some position⟩)
    else .ok (some mark, { state with ahead := rest, position })

/-- Passes over the next mark if it is the given character. -/
def accept (c : Char) : Reader Bool := do
  if (← peek) = some (.plain c) then
    let _ ← next
    return true
  else return false

/-- Up to `count` plain characters that pass the test. -/
def takeChars (test : Char → Bool) : (count : Nat) → Reader Text
  | 0 => return []
  | count + 1 => do
    match ← peek with
    | some (.plain c) =>
      if test c then
        let _ ← next
        return c :: (← takeChars test count)
      else return []
    | _ => return []

/-- All plain characters ahead that pass the test. -/
def takeAll (test : Char → Bool) : Reader Text := do
  takeChars test (← get).ahead.length

/-- The text up to the given character, which is passed over, and whether it was found; there are at
most `count` marks ahead. -/
def textUntil (stop : Char) : (count : Nat) → Reader (Text × Bool)
  | 0 => return ([], false)
  | count + 1 => do
    match ← next with
    | none => return ([], false)
    | some mark =>
      if mark = .plain stop then return ([], true)
      else
        let (text, found) ← textUntil stop count
        return (mark.text ++ text, found)

/-- The text up to the given character, and whether it was found. -/
def takeUntil (stop : Char) : Reader (Text × Bool) := do
  textUntil stop ((← get).ahead.length + 1)

/-- A name that ends at the given character. -/
def takeName (stop : Char) (what : String) : Reader Text := do
  match ← takeUntil stop with
  | ([], false) => refuse (.missingName what) 0
  | ([], true) => refuse (.missingName what) 1
  | (text, false) => refuse (.unterminatedName stop) text.length
  | (text, true) => return text

/-- A number with at most as many digits as are converted. -/
def number (digits : Text) : Reader Nat :=
  if digits.length > Numeral.digitLimit then fault (.longNumeral digits.length)
  else return Numeral.value digits

end Reader

open Reader

/-! ## Groups -/

namespace ReaderState

/-- The group is known and closed. -/
def isClosed (state : ReaderState) (index : Nat) : Bool :=
  (state.groups[index - 1]?.join).isSome

/-- The width of a closed group. -/
def groupWidth (state : ReaderState) (index : Nat) : Width :=
  (state.groups[index - 1]?.join).getD ⟨0, 0⟩

end ReaderState

/-- Refuses to recall a group from a look-behind that is not over when the group begins. -/
def checkLookBehind (index : Nat) : Reader Unit := do
  let state ← get
  match state.lookBehind with
  | none => return ()
  | some known =>
    if !state.isClosed index then refuse .openGroup 0
    else if known ≤ index then refuse .sameLookBehind 0
    else return ()

/-- A recalled group, written in so many characters. -/
def recordedGroup (options : Options) (index length : Nat) : Reader Node := do
  if !(← get).isClosed index then refuse .openGroup length
  else
    checkLookBehind index
    return .recorded index options.ignoreCase options.ascii

/-- Opens a group, whose name is given if it has one. -/
def openGroup (name : Option Text) : Reader Nat := do
  let state ← get
  let index := state.groups.length + 1
  match name with
  | none =>
    set { state with groups := state.groups ++ [none] }
    return index
  | some name =>
    match state.names.lookup name with
    | some earlier => refuse (.redefinedName name index earlier) (name.length + 1)
    | none =>
      set { state with groups := state.groups ++ [none], names := (name, index) :: state.names }
      return index

/-- Closes a group. -/
def closeGroup (index : Nat) (body : Node) : Reader Unit :=
  modify fun state =>
    { state with groups := state.groups.set (index - 1) (some (body.width state.groupWidth)) }

end QueryTemplates.Pattern
