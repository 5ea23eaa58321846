import QueryTemplates.Files.Tree

/-! # Listing files

All files at a location: a file is listed by itself, and of a directory all files below it, at any depth.
The entries of each directory come in the order of their names, whether they are files or directories, and
the files below a directory take its place. Each entry is looked at in turn, and the first one whose path is
too long for that ends the listing. Directories can be nested to any depth: the limit that an interpreter sets
to nested calls is set aside.
-/

namespace QueryTemplates

namespace FileTree

mutual

/-- The files of a tree, each as the names that lead to it. -/
def files : FileTree → List (List Text)
  | .file _ => [[]]
  | .directory entries =>
    ((namedFiles entries).mergeSort fun first second => first.1.precedes second.1).flatMap
      fun (name, below) => below.map (name :: ·)

/-- The files of each entry of a directory, under its name. -/
def namedFiles : List (Text × FileTree) → List (Text × List (List Text))
  | [] => []
  | (name, tree) :: rest => (name, tree.files) :: namedFiles rest

end

mutual

/-- The files and directories below a tree, each as the names that lead to it. A directory comes right
before what is below it. -/
def places : FileTree → List (List Text)
  | .file _ => []
  | .directory entries =>
    ((namedPlaces entries).mergeSort fun first second => first.1.precedes second.1).flatMap
      fun (name, below) => [name] :: below.map (name :: ·)

/-- The files and directories below each entry of a directory, under its name. -/
def namedPlaces : List (Text × FileTree) → List (Text × List (List Text))
  | [] => []
  | (name, tree) :: rest => (name, tree.places) :: namedPlaces rest

end

/-- The path is too long to be looked at. -/
def isTooLong (path : Path) : Bool := pathLimit ≤ path.text.byteSize

/-- The paths of all files at a location. -/
def list (root : FileTree) (location : Text) : Except StartupFailure (List Path) :=
  let path := Path.ofText location
  let missing : Except StartupFailure (List Path) :=
    .error (.error (.unreadable path.text .noLocation))
  if location.contains '\x00' then missing
  else match root.find path with
    | .ok tree =>
      match (tree.places.map path.below).find? isTooLong with
      | some long => .error (.nameTooLong long.text)
      | none => .ok (tree.files.map path.below)
    | .error .nameTooLong => .error (.nameTooLong path.text)
    | .error _ => missing

end FileTree

end QueryTemplates
