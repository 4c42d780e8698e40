import GatewayCheck.Json.Reader

/-!
Labels: the name under which a document is reported.
-/
namespace GatewayCheck

/-- The fields that can name a document, in the order in which they are tried. -/
def labelFields : List String := ["id", "name", "username"]

/-- The label in a value: a text that is not empty, or a number. -/
def labelOf? : Json → Option String
  | .string text => if text.isEmpty then none else some text
  | .number value => some value.text
  | _ => none

/-- The label of a document; one without a name has the empty label. -/
def Json.label (document : Json) : String :=
  (labelFields.findSome? fun field => (document.get? field).bind labelOf?).getD ""

/-- The label of the document that bytes hold; other bytes have the empty label. -/
def labelOfBytes (bytes : Bytes) : String :=
  match Json.ofBytes bytes with
  | .ok document => document.label
  | .error _ => ""

end GatewayCheck
