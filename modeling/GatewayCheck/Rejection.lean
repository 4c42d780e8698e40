import GatewayCheck.Rule.Violation

/-!
Rejections of documents. A rejection of the structure reports the first violation and, up to a
limit, the ones after it.
-/
namespace GatewayCheck

/-- Why bytes are not a document. What the reader of YAML says of them is not worked out here; it may
quote the keys of the document as they are. -/
inductive Malformed where
  | json (error : Json.ReadError)
  | yaml (complaint? : Option String)
  deriving DecidableEq, Repr

namespace Malformed

/-- The text that says why bytes are not a document. -/
def message : Malformed → String
  | json error => error.message
  | yaml none => "invalid YAML"
  | yaml (some complaint) => "invalid YAML: " ++ complaint

/-- The reason together with what the reader of YAML says. -/
def explained (complaint? : Option String) : Malformed → Malformed
  | json error => json error
  | yaml _ => yaml complaint?

end Malformed

/-- One thing that is wrong with the structure of a document: a violation of its schema, or a part
of another shape than a rule can read. -/
inductive Detail where
  | violation (violation : Schema.Violation)
  | shape (steps : List String) (error : Json.ShapeError)
  deriving Repr

/-- A path in a message; the empty path is the whole document. -/
def orRoot (path : String) : String := if path.isEmpty then "(root)" else path

namespace Detail

/-- The pointer to the value. -/
def instancePath : Detail → String
  | violation found => Json.pointer found.instancePath
  | shape steps _ => Json.pointer steps

/-- The pointer to the part of the schema. -/
def schemaPath : Detail → String
  | violation found => Json.pointer found.schemaPath
  | shape _ _ => ""

/-- The text of a detail. -/
def message : Detail → String
  | violation found => found.message
  | shape _ error => error.message

/-- The line of a detail. -/
def line (detail : Detail) : String :=
  orRoot detail.instancePath ++ ": " ++ detail.message ++ " (schema " ++ detail.schemaPath ++ ")"

end Detail

/-- Why a document is not accepted. -/
inductive Rejection where
  | setup (error : SetupError)
  | malformed (reason : Malformed)
  | structural (first : Detail) (others : List Detail)
  | semantic (field : String) (violation : RuleViolation)
  deriving Repr

namespace Rejection

/-- The text of a rejection. -/
def message : Rejection → String
  | setup error => "configuration error: " ++ error.message
  | malformed reason => "invalid JSON document: " ++ reason.message
  | structural first _ =>
    "schema violation at " ++ orRoot first.instancePath ++ ": " ++ first.message
  | semantic field violation => orRoot field ++ ": " ++ violation.message

/-- The kinds of cause. -/
inductive Category where
  | configuration
  | schema
  | semantic
  | internal
  deriving DecidableEq, Repr

/-- The name of a category. -/
def Category.name : Category → String
  | configuration => "Configuration"
  | schema => "Schema"
  | semantic => "Semantic"
  | internal => "Internal"

/-- The category of a rejection. A schema that cannot be compiled is a defect of the documents. -/
def category : Rejection → Category
  | setup (.notCompiled _ _ _) => .internal
  | setup _ => .configuration
  | malformed _ | structural _ _ => .schema
  | semantic _ _ => .semantic

/-- A rejection that is not the fault of the document or of the caller. -/
def isInternal (rejection : Rejection) : Bool := rejection.category == .internal

/-- The rejection for a rule that does not pass on a field. -/
def ofRule (field : String) : RuleFailure → Rejection
  | .broken violation => semantic field violation
  | .setup error => setup error

end Rejection

end GatewayCheck
