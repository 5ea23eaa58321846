import QueryTemplates.Pattern.Cursor
import QueryTemplates.Pattern.Node

/-! # Matching by backtracking

A pattern is matched from a place in a line by trying its ways in order of preference. What the rest of
the pattern needs is a continuation: it receives each place that the pattern can reach, with the groups
recorded so far, until it accepts one. `Node.run_reaches` says that a match ends where the continuation
accepted, and never before the place where it began.
-/

namespace QueryTemplates.Pattern

variable {line : Text}

/-- A place reached in the course of a match, with the places where groups began and ended, the latest
ones first. A group may have begun anew since it last ended. -/
structure Progress (line : Text) where
  cursor : Cursor line
  begun : List (Nat × Cursor line)
  ended : List (Nat × Cursor line)

namespace Progress

/-- How many characters lie ahead. -/
def room (progress : Progress line) : Nat := progress.cursor.room

/-- The same record at another place. -/
def moveTo (progress : Progress line) (cursor : Cursor line) : Progress line :=
  { progress with cursor }

/-- Records that a group begins here. -/
def beginGroup (progress : Progress line) (index : Nat) : Progress line :=
  { progress with begun := (index, progress.cursor) :: progress.begun }

/-- Records that a group ends here. -/
def endGroup (progress : Progress line) (index : Nat) : Progress line :=
  { progress with ended := (index, progress.cursor) :: progress.ended }

/-- The text that a group has recorded, unless it took no part or has begun after its last end. -/
def recorded? (progress : Progress line) (index : Nat) : Option Text :=
  match progress.begun.lookup index, progress.ended.lookup index with
  | some first, some last => if last.room ≤ first.room then some (first.textTo last) else none
  | _, _ => none

end Progress

/-- What the rest of a pattern makes of a place. -/
abbrev Continuation (line : Text) := Progress line → Option (Progress line)

/-- A way to match from a place on, given what follows. -/
abbrev Matcher (line : Text) := Progress line → Continuation line → Option (Progress line)

/-- A word character stands there. -/
def wordAt (ascii : Bool) (side : Text) : Bool :=
  match side.head? with
  | some c => Category.word.contains ascii c
  | none => false

/-- The place fulfils the condition. Neither kind of boundary is found in an empty line. -/
def Anchor.holds (anchor : Anchor) (cursor : Cursor line) : Bool :=
  match anchor with
  | .textStart => cursor.before.isEmpty
  | .textEnd => cursor.after.isEmpty
  | .lastLineEnd => cursor.after.isEmpty || cursor.after == ['\n']
  | .lineStart => cursor.before.isEmpty || cursor.before.head? == some '\n'
  | .lineEnd => cursor.after.isEmpty || cursor.after.head? == some '\n'
  | .boundary negated ascii =>
    !(cursor.before.isEmpty && cursor.after.isEmpty) &&
      ((wordAt ascii cursor.before != wordAt ascii cursor.after) != negated)

/-- The places after `least` and more accepted characters, at most `most` of them, the furthest first,
in front of the places already found. -/
def spanEnds (test : CharTest) (least : Nat) (most : Option Nat) (cursor : Cursor line)
    (found : List (Cursor line)) : List (Cursor line) :=
  match least, most with
  | 0, some 0 => cursor :: found
  | least, most =>
    let found := if least = 0 then cursor :: found else found
    match next : cursor.next? with
    | none => found
    | some (c, later) =>
      if test.accepts c then spanEnds test (least - 1) (most.map (· - 1)) later found else found
termination_by cursor.room
decreasing_by have := Cursor.next?_room next; omega

/-- A number of characters of one class. -/
def matchSpan (test : CharTest) (least : Nat) (most : Option Nat) (greed : Greed) : Matcher line :=
  fun progress proceed =>
    let ends := spanEnds test least most progress.cursor []
    match greed with
    | .greedy => ends.findSome? fun cursor => proceed (progress.moveTo cursor)
    | .reluctant => ends.reverse.findSome? fun cursor => proceed (progress.moveTo cursor)
    | .possessive => ends.head?.bind fun cursor => proceed (progress.moveTo cursor)

/-- A fixed number of rounds. -/
def matchTimes (body : Matcher line) : Nat → Matcher line
  | 0 => fun progress proceed => proceed progress
  | count + 1 => fun progress proceed =>
    body progress fun later => matchTimes body count later proceed

/-- Further rounds, at most `left` of them, as many as possible first. After a round that consumed
nothing there is no other. -/
def matchMost (body : Matcher line) (left : Option Nat) (progress : Progress line)
    (proceed : Continuation line) : Option (Progress line) :=
  if left = some 0 then proceed progress else
  (body progress fun later =>
    if later.room < progress.room then matchMost body (left.map (· - 1)) later proceed
    else proceed later) <|> proceed progress
termination_by progress.room

/-- Further rounds, at most `left` of them, as few as possible first. -/
def matchFewest (body : Matcher line) (left : Option Nat) (progress : Progress line)
    (proceed : Continuation line) : Option (Progress line) :=
  proceed progress <|>
  if left = some 0 then none else
  body progress fun later =>
    if later.room < progress.room then matchFewest body (left.map (· - 1)) later proceed
    else proceed later
termination_by progress.room

/-- Rounds that are each matched in the first way that they can be: `least` of them, or none counts. -/
def firstTimes (body : Matcher line) : Nat → Progress line → Option (Progress line)
  | 0, progress => some progress
  | count + 1, progress => (body progress some).bind (firstTimes body count)

/-- Further rounds that are each matched in the first way that they can be. -/
def firstMost (body : Matcher line) (left : Option Nat) (progress : Progress line) : Progress line :=
  if left = some 0 then progress else
  match body progress some with
  | none => progress
  | some later =>
    if later.room < progress.room then firstMost body (left.map (· - 1)) later else later
termination_by progress.room

/-- A number of rounds. -/
def matchRounds (body : Matcher line) (least : Nat) (most : Option Nat) (greed : Greed) :
    Matcher line :=
  fun progress proceed =>
    let left := most.map (· - least)
    match greed with
    | .greedy => matchTimes body least progress fun later => matchMost body left later proceed
    | .reluctant => matchTimes body least progress fun later => matchFewest body left later proceed
    | .possessive =>
      (firstTimes body least progress).bind fun later => proceed (firstMost body left later)

/-- The place after the given text, which stands here, letter case set aside if so asked. -/
def skipText? (same : Char → Char → Bool) : Text → Cursor line → Option (Cursor line)
  | [], cursor => some cursor
  | c :: text, cursor =>
    match cursor.next? with
    | none => none
    | some (d, later) => if same c d then skipText? same text later else none

/-- The characters are the same, letter case set aside if so asked. -/
def sameChar (ignoreCase ascii : Bool) (c d : Char) : Bool :=
  if ignoreCase then CharTest.fold ascii c.toNat == CharTest.fold ascii d.toNat else c == d

/-- Matches a pattern from a place on. -/
def Node.run : Node → Matcher line
  | .empty => fun progress proceed => proceed progress
  | .one test => fun progress proceed =>
    match progress.cursor.next? with
    | none => none
    | some (c, later) => if test.accepts c then proceed (progress.moveTo later) else none
  | .anchor condition => fun progress proceed =>
    if condition.holds progress.cursor then proceed progress else none
  | .seq first second => fun progress proceed =>
    first.run progress fun later => second.run later proceed
  | .either first second => fun progress proceed =>
    first.run progress proceed <|> second.run progress proceed
  | .span test least most greed => matchSpan test least most greed
  | .rounds body least most greed => matchRounds body.run least most greed
  | .group index body => fun progress proceed =>
    body.run (progress.beginGroup index) fun later => proceed (later.endGroup index)
  | .recorded index ignoreCase ascii => fun progress proceed =>
    match progress.recorded? index with
    | none => none
    | some text =>
      (skipText? (sameChar ignoreCase ascii) text progress.cursor).bind fun cursor =>
        proceed (progress.moveTo cursor)
  | .given index present absent => fun progress proceed =>
    if (progress.recorded? index).isSome then present.run progress proceed
    else absent.run progress proceed
  | .atomic body => fun progress proceed => (body.run progress some).bind proceed
  | .ahead negated body => fun progress proceed =>
    match body.run progress some, negated with
    | some later, false => proceed (later.moveTo progress.cursor)
    | none, true => proceed progress
    | _, _ => none
  | .behind negated width body => fun progress proceed =>
    let found := (progress.cursor.back? width).bind fun cursor =>
      body.run (progress.moveTo cursor) some
    match found, negated with
    | some later, false => proceed (later.moveTo progress.cursor)
    | none, true => proceed progress
    | _, _ => none

end QueryTemplates.Pattern
