import GatewayCheck.Json.Basic
import GatewayCheck.Release

/-!
The pieces from which the schema documents of the releases are built.
-/
namespace GatewayCheck.Packaged

/-- A schema that refers to a place in the document of a release. -/
def reference (release : Release) (place : String) : Json :=
  .object [("$ref", .string (release.address ++ "#" ++ place))]

/-- A member that documents have from some release on. -/
def since (first release : Release) (member : String × Json) : List (String × Json) :=
  if first ≤ release then [member] else []

end GatewayCheck.Packaged
