import GatewayCheck.Json.Basic
import GatewayCheck.Text.Pieces

/-!
Ways into a document: pointers, whose segments follow slashes, and dotted paths, whose segments
stand between dots.
-/
namespace GatewayCheck

namespace Json

/-- A segment of a pointer: a tilde is written as `~0` and a slash as `~1`. -/
def pointerSegment (segment : String) : List Char :=
  '/' :: segment.toList.flatMap fun character =>
    if character = '~' then ['~', '0'] else if character = '/' then ['~', '1'] else [character]

/-- The text of a pointer with the given segments; the whole document is the empty text. -/
def pointer (segments : List String) : String := String.ofList (segments.flatMap pointerSegment)

/-- The value reached by stepping from object to object along keys. -/
def step? : List String → Json → Option Json
  | [], json => some json
  | key :: rest, json => (json.get? key).bind (step? rest)

/-- The segments of a dotted path. -/
def pathSegments (path : String) : List String := Text.split '.' path

/-- The value at a dotted path; no segment of a path is empty. -/
def atPath? (path : String) (json : Json) : Option Json :=
  if (pathSegments path).any String.isEmpty then none else step? (pathSegments path) json

end Json

end GatewayCheck
