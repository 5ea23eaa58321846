import QueryTemplates.Dictionary
import QueryTemplates.Files.Path
import QueryTemplates.StartupError

/-! # File trees

A file tree is a file or a directory of named trees; other kinds of entries are left out. Its root is where
relative paths start, and nothing is known of what lies outside it: neither an absolute path nor one that leads
above the root finds anything. What a path means is found by following its names from the root; the first name
that cannot be followed tells what is wrong.
-/

namespace QueryTemplates

/-- A file with its bytes, or a directory with its entries. -/
inductive FileTree
  | file (bytes : List UInt8)
  | directory (entries : List (Text × FileTree))

namespace FileTree

/-- A directory without entries. -/
def empty : FileTree := .directory []

/-- The longest name, in bytes. -/
def nameLimit : Nat := 255

/-- The length in bytes from which on a path is too long. -/
def pathLimit : Nat := 4096

/-- Follows names from a tree; `above` holds the directories that lie above it, the nearest first. -/
def walk (above : List FileTree) (here : FileTree) : List Text → Except ReadFault FileTree
  | [] => .ok here
  | name :: rest =>
    match here with
    | .file _ => .error .notDirectory
    | .directory entries =>
      if name = Path.parentName then
        match above with
        | [] => .error .notFound
        | parent :: further => walk further parent rest
      else if nameLimit < name.byteSize then .error .nameTooLong
      else match entries.lookup name with
        | none => .error .notFound
        | some tree => walk (here :: above) tree rest

/-- What a path means. Nothing is known of what lies outside the root. -/
def find (root : FileTree) (path : Path) : Except ReadFault FileTree :=
  if pathLimit ≤ path.text.byteSize then .error .nameTooLong
  else if 0 < path.slashes then .error .notFound
  else walk [] root path.names

/-- The bytes of the file at a path. -/
def readBytes (root : FileTree) (path : Path) : Except ReadFault (List UInt8) :=
  match root.find path with
  | .error fault => .error fault
  | .ok (.directory _) => .error .isDirectory
  | .ok (.file bytes) => .ok bytes

/-- The entries of a directory; a file has none. -/
def entries : FileTree → List (Text × FileTree)
  | .file _ => []
  | .directory entries => entries

/-- What stands at a place after a new tree is written there. A directory stays if one is asked for. -/
def overwrite (written : FileTree) : FileTree → FileTree
  | .file _ => written
  | .directory entries =>
    match written with
    | .file _ => written
    | .directory _ => .directory entries

/-- Writes a tree below another one; the directories on the way are made. -/
def writeBelow (written : FileTree) : List Text → FileTree → FileTree
  | [], here => overwrite written here
  | name :: rest, here =>
    .directory (Dictionary.putEntry name
      (writeBelow written rest ((here.entries.lookup name).getD empty)) here.entries)

/-- Deletes what is below a tree. -/
def deleteBelow : List Text → FileTree → FileTree
  | [], here => here
  | [name], here => .directory (here.entries.filter fun (other, _) => other != name)
  | name :: rest, here =>
    match here.entries.lookup name with
    | none => here
    | some tree => .directory (Dictionary.putEntry name (deleteBelow rest tree) here.entries)

/-- The files after a tree is written at a path. -/
def write (root : FileTree) (path : Path) (written : FileTree) : FileTree :=
  writeBelow written path.names root

/-- The files after what is at a path is deleted. -/
def delete (root : FileTree) (path : Path) : FileTree := deleteBelow path.names root

end FileTree

end QueryTemplates
