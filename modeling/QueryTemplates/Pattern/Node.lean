import QueryTemplates.Pattern.CharTest

/-! # Patterns

The tree of a placeholder pattern. Option letters such as `(?i)` are not part of the tree: each test and
each anchor carries the rules that were in force where it was written.
-/

namespace QueryTemplates.Pattern

/-- A condition on the place between two characters. -/
inductive Anchor
  /-- the start of the text -/
  | textStart
  /-- the end of the text -/
  | textEnd
  /-- the end of the text, or before a line feed that ends it -/
  | lastLineEnd
  /-- the start of the text, or after a line feed -/
  | lineStart
  /-- the end of the text, or before a line feed -/
  | lineEnd
  /-- between a word character and another character or an end of the text, or the contrary -/
  | boundary (negated ascii : Bool)
deriving DecidableEq

/-- How a repetition chooses among its numbers of rounds. -/
inductive Greed
  /-- as many as the rest of the pattern allows -/
  | greedy
  /-- as few as the rest of the pattern allows -/
  | reluctant
  /-- as many as possible, whatever follows -/
  | possessive
deriving DecidableEq

/-- A pattern. -/
inductive Node
  /-- the empty text -/
  | empty
  /-- one character -/
  | one (test : CharTest)
  /-- a place between characters -/
  | anchor (condition : Anchor)
  /-- one pattern after another -/
  | seq (first second : Node)
  /-- the first pattern, or else the second -/
  | either (first second : Node)
  /-- a number of characters of one class -/
  | span (test : CharTest) (least : Nat) (most : Option Nat) (greed : Greed)
  /-- a number of rounds of one pattern -/
  | rounds (body : Node) (least : Nat) (most : Option Nat) (greed : Greed)
  /-- a numbered group, which records the text that it covers -/
  | group (index : Nat) (body : Node)
  /-- the text that a group has recorded -/
  | recorded (index : Nat) (ignoreCase ascii : Bool)
  /-- one of two patterns, chosen by whether a group has recorded a text -/
  | given (index : Nat) (present absent : Node)
  /-- a pattern of which only the first way to match counts -/
  | atomic (body : Node)
  /-- a condition on the text that follows -/
  | ahead (negated : Bool) (body : Node)
  /-- a condition on the text of the given length that comes before -/
  | behind (negated : Bool) (width : Nat) (body : Node)
deriving DecidableEq

/-- The patterns one after another. -/
def Node.ofList : List Node → Node
  | [] => .empty
  | [node] => node
  | node :: rest => .seq node (ofList rest)

end QueryTemplates.Pattern
