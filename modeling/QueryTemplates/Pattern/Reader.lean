import QueryTemplates.Pattern.CharClass
import QueryTemplates.Pattern.GroupKind
import QueryTemplates.Pattern.Repetition

/-! # Reading patterns

`Pattern.read` gives the tree of a pattern and the number of its groups, or says why the text is no pattern
and where. Groups can be nested to any depth: the limit that an interpreter sets to nested calls is set aside.
Some rare forms are left out: only printable ASCII characters have names in escapes, the template option
does not forbid repetitions, no look-behind is too wide, and the group in a condition is a number in ASCII
digits or a name.
-/

namespace QueryTemplates.Pattern

open Reader

/-- Closes the parentheses opened at `start`. -/
def readClose (start : Nat) : Reader Unit := do
  if ← accept ')' then return () else refuseAt .unterminatedGroup start

/-- The item of a character that has no other meaning. -/
def literalItem (options : Options) (c : Char) : Item :=
  .plain (.one (options.test false [.code c.toNat]))

/-- The item of a mark that is complete by itself. -/
def readSimple (options : Options) (mark : Mark) : Reader Item := do
  match mark with
  | .escaped c =>
    match ← outerEscape options c with
    | .code code => return .plain (.one (options.test false [.code code]))
    | .category category negated =>
      return .plain (.one (options.test false [.category category negated]))
    | .anchor condition => return .place (.anchor condition)
    | .recorded node => return .plain node
  | .plain '[' => return .plain (← readClass options)
  | .plain '.' =>
    return .plain (.one ⟨true, if options.dotAll then [] else [.code 0x0A], false, false⟩)
  | .plain '^' => return .place (.anchor (if options.multiline then .lineStart else .textStart))
  | .plain '$' => return .place (.anchor (if options.multiline then .lineEnd else .lastLineEnd))
  | .plain c => return literalItem options c
  | .dangling => return literalItem options '\\'

/-- The marks that a verbose pattern passes over between items. -/
def isVerboseSpace (mark : Mark) : Bool :=
  match mark with
  | .plain c => c = ' ' || c = '\t' || c = '\n' || c = '\r' || c = '\x0b' || c = '\x0c'
  | _ => false

mutual

/-- A sequence of items up to a bar, a closing parenthesis or the end, after the items already read, last
one first. An item takes at least one mark, and a group three steps for its opening mark, so three steps
for each mark of the pattern are enough `fuel`. -/
def readSequence : (fuel : Nat) → Options → (first : Bool) → List Item → Reader Node
  | 0, _, _, items => return Node.ofList (items.reverse.map Item.node)
  | fuel + 1, options, first, items => do
    match ← peek with
    | none | some (.plain '|') | some (.plain ')') =>
      return Node.ofList (items.reverse.map Item.node)
    | some mark =>
      let start := (← get).position
      let _ ← next
      if options.verbose && isVerboseSpace mark then readSequence fuel options first items
      else if options.verbose && mark = .plain '#' then
        let _ ← takeUntil '\n'
        readSequence fuel options first items
      else if mark = .plain '(' then
        match ← readGroupKind options start (first && items.isEmpty) with
        | .nothing changesOptions =>
          let state ← get
          let options := if changesOptions then state.options else options
          readSequence fuel options first items
        | .done node => readSequence fuel options first (.plain node :: items)
        | kind =>
          let node ← readGroup fuel options start kind
          readSequence fuel options first (.plain node :: items)
      else if mark = .plain '*' || mark = .plain '+' || mark = .plain '?' || mark = .plain '\x7b' then
        match mark with
        | .plain c =>
          match ← repeatBounds c with
          | none => readSequence fuel options first (literalItem options c :: items)
          | some (least, most) =>
            readSequence fuel options first (← repeatLast start least most items)
        | _ => readSequence fuel options first items
      else
        let item ← readSimple options mark
        readSequence fuel options first (item :: items)

/-- Alternatives up to a closing parenthesis or the end. In the outermost ones the options for the whole
pattern hold anew after each bar. -/
def readAlternatives : (fuel : Nat) → Options → (outer first : Bool) → Reader Node
  | 0, _, _, _ => return .empty
  | fuel + 1, options, outer, first => do
    let node ← readSequence fuel options (outer && first) []
    if ← accept '|' then
      let state ← get
      let options := if outer then state.options else options
      return .either node (← readAlternatives fuel options outer false)
    else return node

/-- The body of a group opened at `start`, and its closing parenthesis. -/
def readGroup : (fuel : Nat) → Options → (start : Nat) → GroupKind → Reader Node
  | 0, _, _, _ => return .empty
  | fuel + 1, options, start, kind => do
    match kind with
    | .numbered name =>
      let index ← openGroup name
      let body ← readAlternatives fuel options false false
      readClose start
      closeGroup index body
      return .group index body
    | .bare inner =>
      let body ← readAlternatives fuel inner false false
      readClose start
      return body
    | .atomic =>
      let body ← readAlternatives fuel options false false
      readClose start
      return .atomic body
    | .look behind negated =>
      let outer := (← get).lookBehind
      if behind && outer.isNone then
        modify fun state => { state with lookBehind := some (state.groups.length + 1) }
      let body ← readAlternatives fuel options false false
      if behind then modify fun state => { state with lookBehind := outer }
      readClose start
      if behind then
        let width := body.width (← get).groupWidth
        if width.least != width.most then
          modify fun state => { state with variableLookBehind := true }
        return .behind negated width.least body
      else return .ahead negated body
    | .given index =>
      let present ← readSequence fuel options false []
      let absent ← if ← accept '|' then readSequence fuel options false [] else pure .empty
      if (← peek) = some (.plain '|') then refuse .tooManyBranches 0
      else
        readClose start
        return .given index present absent
    | .done node => return node
    | .nothing _ => return .empty

end

/-- A pattern and the number of its groups. -/
structure Parsed where
  node : Node
  groups : Nat
deriving DecidableEq

/-- Refuses what is left of a pattern, and conditions on groups that it does not have. -/
def readEnd (node : Node) : Reader Parsed := do
  let state ← get
  if state.asksAscii && state.asksUnicode then fault .conflictingScripts
  else if !state.ahead.isEmpty then refuse .unbalancedParenthesis 0
  else
    match state.conditions.find? fun (index, _) => state.groups.length < index with
    | some (index, position) => refuseAt (.invalidReference index) position
    | none =>
      if state.variableLookBehind then
        fun _ => .error (.refused ⟨.variableLookBehind, none⟩)
      else return ⟨node, state.groups.length⟩

/-- Reads a pattern. -/
def read (pattern : Text) : Except Failure Parsed :=
  let marks := Mark.ofText pattern
  if marks = [.dangling] then .error (.refused ⟨.danglingEscape, some 0⟩)
  else
    let fuel := 3 * marks.length + 3
    let reader : Reader Parsed := do
      let node ← readAlternatives fuel .default true true
      readEnd node
    (reader.run ⟨marks, 0, .default, false, false, [], [], none, [], false⟩).map (·.1)

end QueryTemplates.Pattern
