import GatewayCheck.Json.Basic
import GatewayCheck.Yaml.Document
import GatewayCheck.Yaml.Value

/-!
Reading documents from bytes. References are followed, keys are scalars and count as texts, and numbers
that are not finite are null.
-/
namespace GatewayCheck.Yaml

/-- The document of a value. -/
def Value.toJson : Value → Json
  | null => .null
  | boolean value => .bool value
  | whole value => .whole value
  | floating (.finite value) => .number (.floating value)
  | floating _ => .null
  | text written => .string written

namespace Document

/-- The text of a key. -/
def readKey (document : Document) (key : Node) : Following String := do
  match ← document.follow key with
  | .scalar _ scalar => return scalar.text
  | _ => failure

/-- Reads the value of a node, with sequences and mappings in at most `depth` of each other. -/
def readValue (document : Document) : (depth : Nat) → Node → Following Json
  | _, .scalar _ scalar =>
    match Value.ofScalar? scalar with
    | some value => return value.toJson
    | none => failure
  | depth + 1, .sequence _ tag? items => do
    if tag?.any Tag.isOwn then failure
    else
      let values ← items.mapM fun item => do document.readValue depth (← document.follow item)
      return .array values
  | depth + 1, .mapping _ tag? entries => do
    if tag?.any Tag.isOwn then failure
    else
      let members ← entries.mapM fun (key, value) => do
        let key ← document.readKey key
        return (key, ← document.readValue depth (← document.follow value))
      return Json.ofMembers members
  | _, _ => failure

/-- Sequences and mappings stand in each other at most this deep. -/
def mostDepth : Nat := 128

/-- The value of a document; an empty text is null. -/
def toJson? (document : Document) : Option Json :=
  match document.root? with
  | none => some .null
  | some root => (document.readValue mostDepth root).run' 0

end Document

end GatewayCheck.Yaml

namespace GatewayCheck

/-- The document that bytes hold. -/
def Json.ofYaml? (bytes : Bytes) : Option Json := do (← Yaml.Document.ofBytes? bytes).toJson?

end GatewayCheck
