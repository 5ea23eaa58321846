import QueryTemplates.Text.Numeral
import QueryTemplates.Text.Utf8

/-! # Routes

The target of a request is a path, perhaps with a query or a fragment, which do not matter. Dot segments
are followed and percent escapes decoded before the path is compared with the routes; an identifier takes
up exactly one segment.
-/

namespace QueryTemplates

/-- What a request can be about. -/
inductive Route
  | queries
  | tokens (id : Text)
  | render (id : Text)
deriving DecidableEq

/-- The bytes of a text with percent escapes. A percent sign without two digits is itself. -/
def percentBytes : Text → List UInt8
  | [] => []
  | '%' :: high :: low :: rest =>
    match Numeral.hexValue? high, Numeral.hexValue? low with
    | some first, some second => UInt8.ofNat (first * 16 + second) :: percentBytes rest
    | _, _ => Utf8.encode ['%'] ++ percentBytes (high :: low :: rest)
  | c :: rest => Utf8.encode [c] ++ percentBytes rest

/-- The text without percent escapes. -/
def percentDecode (text : Text) : Text := Utf8.decodeLossy (percentBytes text)

/-- Follows dot segments; `done` holds the segments so far, the last one first. The first segment is never
left. -/
def followDots (done : List Text) : List Text → List Text
  | [] => done.reverse
  | segment :: rest =>
    if segment = ['.'] then followDots done rest
    else if segment = ['.', '.'] then
      followDots (if done = [[]] then done else done.drop 1) rest
    else followDots (segment :: done) rest

/-- The path of a target, which starts with one slash. -/
def targetPath (target : Text) : Text :=
  let path := (target.takeWhile fun c => c != '?' && c != '#').dropWhile (· == '/')
  percentDecode (Text.joinWith ['/'] (followDots [] (Text.splitAt '/' ('/' :: path))))

namespace Route

/-- The path of the first route. -/
def base : List Text := [[], "api".toList, "v1".toList, "queries".toList]

/-- The segments after those of the first route. -/
def afterBase? : (base segments : List Text) → Option (List Text)
  | [], segments => some segments
  | _ :: _, [] => none
  | name :: base, segment :: segments =>
    if name = segment then afterBase? base segments else none

/-- The path without a line feed that ends it. -/
def withoutFinalBreak (path : Text) : Text :=
  match path.reverse with
  | '\n' :: rest => rest.reverse
  | _ => path

/-- The route of the segments after those of the first route. -/
def ofSegments? : List Text → Option Route
  | [] => some .queries
  | [id, action] =>
    if id.isEmpty then none
    else if action = "tokens".toList then some (.tokens id)
    else if action = "render".toList then some (.render id)
    else none
  | _ => none

/-- The route of a path. A line feed that ends the path does not count. -/
def ofPath? (path : Text) : Option Route :=
  (afterBase? base (Text.splitAt '/' (withoutFinalBreak path))).bind ofSegments?

/-- The method of requests to a route. -/
def method : Route → Text
  | .queries | .tokens _ => "GET".toList
  | .render _ => "POST".toList

/-- A path without the slashes at its end, where there are some. -/
def withoutFinalSlashes? (path : Text) : Option Text :=
  match path.reverse with
  | '/' :: rest => some ((rest.dropWhile (· == '/')).reverse)
  | _ => none

/-- The path is that of a route but for slashes at its end. -/
def isNear (path : Text) : Bool :=
  match withoutFinalSlashes? path with
  | none => false
  | some path => (ofPath? path).isSome

end Route

end QueryTemplates
