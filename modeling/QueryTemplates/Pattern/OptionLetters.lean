import QueryTemplates.Character.Word
import QueryTemplates.Pattern.ReaderState

/-! # Option letters

Letters change the rules under which a pattern is read, for the whole pattern or for one group, where they
can also be turned off.
-/

namespace QueryTemplates.Pattern

open Reader

/-- The letters of the options. -/
def isOptionLetter (c : Char) : Bool := "iLmsxatu".toList.contains c

/-- The letters that choose a script rule. -/
def isScriptLetter (c : Char) : Bool := c = 'a' || c = 'u' || c = 'L'

/-- Turns options on, then others off. -/
def Options.change (options : Options) (on off : List Char) : Options where
  ignoreCase := (options.ignoreCase || on.contains 'i') && !off.contains 'i'
  multiline := (options.multiline || on.contains 'm') && !off.contains 'm'
  dotAll := (options.dotAll || on.contains 's') && !off.contains 's'
  verbose := (options.verbose || on.contains 'x') && !off.contains 'x'
  ascii := if on.any isScriptLetter then on.contains 'a' else options.ascii

/-- The option letter that a mark is, or a refusal. -/
def optionLetter (mark : Option Mark) (missing : String) : Reader Char := do
  match mark with
  | none => refuse (.missingOption missing) 0
  | some (.plain c) =>
    if isOptionLetter c then return c
    else if Character.isAlphanumeric c && !Character.isDecimalDigit c then refuse .unknownOption 1
    else refuse (.missingOption missing) 1
  | some mark => refuse (.missingOption missing) mark.text.length

/-- The options to turn on, from the letter given, and the mark after them. -/
def optionsOn (letter : Char) : (count : Nat) → List Char → Reader (List Char × Char)
  | 0, _ => refuse (.missingOption "-, : or )") 0
  | count + 1, on => do
    if letter = 'L' then refuse (.badOptions "cannot use 'L' flag with a str pattern") 0
    else if isScriptLetter letter && on.any fun c => isScriptLetter c && c != letter then
      refuse (.badOptions "flags 'a', 'u' and 'L' are incompatible") 0
    else
      let mark ← next
      match mark with
      | some (.plain ')') => return (letter :: on, ')')
      | some (.plain '-') => return (letter :: on, '-')
      | some (.plain ':') => return (letter :: on, ':')
      | _ => optionsOn (← optionLetter mark "-, : or )") count (letter :: on)

/-- The options to turn off, from the letter given. -/
def optionsOff (letter : Char) : (count : Nat) → List Char → Reader (List Char)
  | 0, _ => refuse (.missingOption ":") 0
  | count + 1, off => do
    if isScriptLetter letter then
      refuse (.badOptions "cannot turn off flags 'a', 'u' and 'L'") 0
    else
      let mark ← next
      if mark = some (.plain ':') then return letter :: off
      else optionsOff (← optionLetter mark ":") count (letter :: off)

/-- What option letters in a group apply to. -/
inductive OptionScope
  /-- the whole pattern -/
  | pattern
  /-- the group -/
  | group (options : Options)

/-- Reads options, of which the first mark has been read. -/
def readOptions (options : Options) (first : Char) : Reader OptionScope := do
  let count := (← get).ahead.length + 1
  let (on, stop) ← if first = '-' then pure ([], '-') else optionsOn first count []
  if stop = ')' then
    modify fun state => { state with
      options := state.options.change on []
      asksAscii := state.asksAscii || on.contains 'a'
      asksUnicode := state.asksUnicode || on.contains 'u' }
    return .pattern
  else if on.contains 't' then refuse (.badOptions "cannot turn on global flag") 1
  else if stop = '-' then
    let off ← optionsOff (← optionLetter (← next) "flag") count []
    if off.contains 't' then refuse (.badOptions "cannot turn off global flag") 1
    else if on.any off.contains then refuse (.badOptions "flag turned on and off") 1
    else return .group (options.change on off)
  else return .group (options.change on [])

end QueryTemplates.Pattern
