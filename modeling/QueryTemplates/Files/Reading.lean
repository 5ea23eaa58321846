import QueryTemplates.Files.Tree
import QueryTemplates.Text.Lines
import QueryTemplates.Text.Utf8

/-! # Reading template files

A template file is UTF-8 text. A mark at its start that tells so is dropped, even where the file is too
short to hold all of it, and every line break is read as a line feed.
-/

namespace QueryTemplates

/-- Drops the byte order mark at the start, or all of a file that is a beginning of the mark. -/
def dropByteOrderMark : List UInt8 → List UInt8
  | [0xEF] => []
  | [0xEF, 0xBB] => []
  | 0xEF :: 0xBB :: 0xBF :: rest => rest
  | bytes => bytes

/-- The text of the template file at a path. -/
def FileTree.readTemplate (root : FileTree) (path : Text) : Except StartupFailure Text :=
  if path.contains '\x00' then .error .nullInPath
  else match root.readBytes (Path.ofText path) with
    | .error fault => .error (.error (.unreadable path fault))
    | .ok bytes =>
      match Utf8.decode (dropByteOrderMark bytes) with
      | .error failure => .error (.error (.unreadable path (.notText failure.fault.reason)))
      | .ok text => .ok text.normalizeBreaks

end QueryTemplates
