import QueryTemplates.Character.Identifier
import QueryTemplates.Pattern.OptionLetters

/-! # Kinds of groups

What the characters after an opening parenthesis say about the group that it begins.
-/

namespace QueryTemplates.Pattern

open Reader

/-- What begins with an opening parenthesis. -/
inductive GroupKind
  /-- a group with a number, and with a name if one is given -/
  | numbered (name : Option Text)
  /-- parentheses that only hold together, under the options given -/
  | bare (options : Options)
  | atomic
  | look (behind negated : Bool)
  | given (index : Nat)
  /-- something that is complete already -/
  | done (node : Node)
  /-- a comment, or options for the whole pattern -/
  | nothing (changesOptions : Bool)

/-- The largest number of groups, and one more. -/
def groupLimit : Nat := 2147483647

/-- The number that a group is asked for by: digits, perhaps set apart in groups by low lines, perhaps
after a plus sign, perhaps among white space. -/
def groupNumber? (text : Text) : Option Nat :=
  let text := match text.trim with
    | '+' :: digits => digits
    | digits => digits
  let digits := text.filter (· != '_')
  let separated := text.head? != some '_' && text.getLast? != some '_' &&
    (text.zip text.tail).all fun pair => pair != ('_', '_')
  if Numeral.isDigits digits && separated && digits.length ≤ Numeral.digitLimit then
    some (Numeral.value digits)
  else none

/-- The condition of a group, after its parenthesis. -/
def readCondition : Reader Nat := do
  let name ← takeName ')' "group name"
  let length := name.length + 1
  let index ←
    if Character.isIdentifier name then
      match (← get).names.lookup name with
      | some index => pure index
      | none => refuse (.unknownName name) length
    else
      match groupNumber? name with
      | none => refuse (.badGroupName name) length
      | some 0 => refuse .badGroupNumber length
      | some index =>
        if groupLimit ≤ index then refuse (.invalidReference index) length
        else
          modify fun state => { state with
            conditions := state.conditions ++ [(index, state.position - length)] }
          pure index
  checkLookBehind index
  return index

/-- A name between `<` or `=` and its end. -/
def readGroupName (stop : Char) : Reader Text := do
  let name ← takeName stop "group name"
  if Character.isIdentifier name then return name
  else refuse (.badGroupName name) (name.length + 1)

/-- The forms that begin with `(?P`. -/
def readNamedForm (options : Options) : Reader GroupKind := do
  if ← accept '<' then return .numbered (some (← readGroupName '>'))
  else if ← accept '=' then
    let name ← readGroupName ')'
    match (← get).names.lookup name with
    | none => refuse (.unknownName name) (name.length + 1)
    | some index => return .done (← recordedGroup options index (name.length + 1))
  else
    match ← next with
    | none => refuse .unexpectedEnd 0
    | some mark => refuse (.unknownExtension ('P' :: mark.text)) (mark.text.length + 2)

/-- Reads what follows an opening parenthesis at `start`, up to where the body of the group begins.
Options for the whole pattern are allowed only where nothing came before. -/
def readGroupKind (options : Options) (start : Nat) (atStart : Bool) : Reader GroupKind := do
  if !(← accept '?') then return .numbered none
  else
    match ← next with
    | none => refuse .unexpectedEnd 0
    | some (.plain 'P') => readNamedForm options
    | some (.plain ':') => return .bare options
    | some (.plain '#') =>
      let (_, found) ← takeUntil ')'
      if found then return .nothing false else refuseAt .unterminatedComment start
    | some (.plain '=') => return .look false false
    | some (.plain '!') => return .look false true
    | some (.plain '<') =>
      match ← next with
      | none => refuse .unexpectedEnd 0
      | some (.plain '=') => return .look true false
      | some (.plain '!') => return .look true true
      | some mark => refuse (.unknownExtension ('<' :: mark.text)) (mark.text.length + 2)
    | some (.plain '(') => return .given (← readCondition)
    | some (.plain '>') => return .atomic
    | some mark =>
      match mark.plain? with
      | some c =>
        if isOptionLetter c || c = '-' then
          match ← readOptions options c with
          | .group options => return .bare options
          | .pattern =>
            if atStart then return .nothing true else refuseAt .misplacedOptions start
        else refuse (.unknownExtension [c]) 2
      | none => refuse (.unknownExtension mark.text) (mark.text.length + 1)

end QueryTemplates.Pattern
