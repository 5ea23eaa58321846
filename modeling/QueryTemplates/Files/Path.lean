import QueryTemplates.Text.Basic

/-! # Paths

A path is a list of names, below the place where it starts. Its text is read without regard to repeated
and trailing slashes and to single dots; a name of two dots means the directory above.
-/

namespace QueryTemplates

/-- A path. A path without slashes at its start is relative; two slashes are not the same as one. -/
structure Path where
  slashes : Nat
  names : List Text
deriving DecidableEq

namespace Path

/-- The name of the directory above. -/
def parentName : Text := ['.', '.']

/-- The slashes at the start of a path that count: exactly two are kept, and more are one. -/
def leadingSlashes (text : Text) : Nat :=
  match (text.takeWhile (· == '/')).length with
  | 0 => 0
  | 2 => 2
  | _ => 1

/-- The path that a text describes. -/
def ofText (text : Text) : Path where
  slashes := leadingSlashes text
  names := (text.splitAt '/').filter fun name => !(name == [] || name == ['.'])

/-- The text of a path; that of the empty path is a dot. -/
def text (path : Path) : Text :=
  match List.replicate path.slashes '/' ++ Text.joinWith ['/'] path.names with
  | [] => ['.']
  | text => text

/-- The path of something below a directory. -/
def below (path : Path) (names : List Text) : Path := { path with names := path.names ++ names }

end Path

end QueryTemplates
