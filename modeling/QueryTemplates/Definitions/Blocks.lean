import QueryTemplates.StartupError
import QueryTemplates.Text.Lines

/-! # Blocks of a template file

A marker line introduces a definition: it starts with the marker, and what follows is the identifier. The
body is the lines up to the next marker line or the end, without the blank lines at its two ends. Before
the first marker line there may be only blank lines.
-/

namespace QueryTemplates

/-- What marker lines start with. -/
structure Marker where
  text : Text
  ne_nil : text ≠ []
deriving DecidableEq

namespace Marker

/-- A text as a marker, unless it is empty. -/
def ofText? : Text → Option Marker
  | [] => none
  | c :: text => some ⟨c :: text, List.cons_ne_nil c text⟩

/-- The message for an empty marker. -/
def refusal : String := "query_id_prefix must not be empty"

/-- The marker that is used where no other is given. -/
def standard : Marker := ⟨"ID:".toList, by decide⟩

end Marker

/-- How marker lines are told and read. -/
structure BlockFormat where
  marker : Marker
  trimsIds : Bool
deriving DecidableEq

namespace BlockFormat

/-- The identifier on a marker line. -/
def id? (format : BlockFormat) (line : Text) : Option Text :=
  (Text.dropStart? format.marker.text line).map fun id => if format.trimsIds then id.trim else id

/-- The number of the first marker line with a blank identifier, where lines are counted from `line`. -/
def blankMarker? (format : BlockFormat) : (line : Nat) → List Text → Option Nat
  | _, [] => none
  | line, first :: rest =>
    match format.id? first with
    | some id => if id.isBlank then some line else blankMarker? format (line + 1) rest
    | none => blankMarker? format (line + 1) rest

/-- The lines before the first marker line, and the lines after each marker line, under its
identifier. -/
def cut (format : BlockFormat) : List Text → List Text × List (Text × List Text)
  | [] => ([], [])
  | line :: rest =>
    let (before, blocks) := format.cut rest
    match format.id? line with
    | some id => ([], (id, before) :: blocks)
    | none => (line :: before, blocks)

end BlockFormat

/-- The lines without the blank ones at the start. -/
def dropBlankLines (lines : List Text) : List Text := lines.dropWhile Text.isBlank

/-- The lines without the blank ones at the two ends. -/
def trimBlankLines (lines : List Text) : List Text :=
  (dropBlankLines (dropBlankLines lines).reverse).reverse

/-- The text of a body, from its lines. -/
def bodyText (lines : List Text) : Text := Text.joinWith ['\n'] (trimBlankLines lines)

/-- The identifiers and bodies in the text of a file. A marker line without an identifier is the first
thing that is found wrong. -/
def BlockFormat.split (format : BlockFormat) (text : Text) :
    Except Malformation (List (Text × Text)) :=
  match format.blankMarker? 1 text.lines with
  | some line => .error (.blankId line)
  | none =>
    let (before, blocks) := format.cut text.lines
    if before.all Text.isBlank then .ok (blocks.map fun (id, lines) => (id, bodyText lines))
    else if blocks.isEmpty then .error (.noMarker format.marker.text)
    else .error .strayContent

end QueryTemplates
