import GatewayCheck.Json.Printer
import GatewayCheck.Text.Quoted

/-!
Taking typed values out of documents. A reader says what it found and what it expected.
-/
namespace GatewayCheck.Json

/-- Why a document does not have the shape that a reader expects. -/
inductive ShapeError where
  | wrongType (found : Json) (expected : String)
  | wrongValue (found : Json) (expected : String)
  | severalKeys
  | unknownName (found : String) (allowed : List String)
  | noAlternative (name : String)
  | tooManyItems (count : Nat)
  deriving Repr

/-- The description of a value in a message. -/
def described : Json → String
  | null => "null"
  | bool true => "boolean \x60true\x60"
  | bool false => "boolean \x60false\x60"
  | number (.whole value) => "integer \x60" ++ Number.wholeText value ++ "\x60"
  | number (.floating value) => "floating point \x60" ++ value.text ++ "\x60"
  | string text => "string " ++ Text.quoted text
  | array _ => "sequence"
  | object _ => "map"

/-- The text of a shape error. -/
def ShapeError.message : ShapeError → String
  | wrongType found expected => "invalid type: " ++ found.described ++ ", expected " ++ expected
  | wrongValue found expected => "invalid value: " ++ found.described ++ ", expected " ++ expected
  | severalKeys => "invalid value: map, expected map with a single key"
  | unknownName found allowed =>
    "unknown variant \x60" ++ found ++ "\x60, expected one of " ++
      String.intercalate ", " (allowed.map fun name => "\x60" ++ name ++ "\x60")
  | noAlternative name => "data did not match any variant of untagged enum " ++ name
  | tooManyItems count =>
    "invalid length " ++ Number.wholeText count ++ ", expected fewer elements in array"

/-- Reads a text. -/
def readText : Json → Except ShapeError String
  | string text => .ok text
  | json => .error (.wrongType json "a string")

/-- Reads a value that may be null. -/
def readOptional {α : Type} (read : Json → Except ShapeError α) :
    Json → Except ShapeError (Option α)
  | null => .ok none
  | json => (read json).map some

/-- Reads a count of at most 64 bits. -/
def readCount : Json → Except ShapeError Nat
  | number (.whole value) =>
    if value < 0 then .error (.wrongValue (number (.whole value)) "usize") else .ok value.toNat
  | json => .error (.wrongType json "usize")

/-- Finds a name among the allowed ones. -/
def readName {α : Type} (choices : List (String × α)) (name : String) : Except ShapeError α :=
  match choices.lookup name with
  | some value => .ok value
  | none => .error (.unknownName name (choices.map Prod.fst))

/-- Reads one of several names, given as a text or as the single key of an object that holds
null. -/
def readChoice {α : Type} (choices : List (String × α)) : Json → Except ShapeError α
  | string name => readName choices name
  | object [(name, value)] => do
    let choice ← readName choices name
    match value with
    | null => return choice
    | json => throw (.wrongType json "unit")
  | object _ => .error .severalKeys
  | json => .error (.wrongType json "string or map")

end GatewayCheck.Json
