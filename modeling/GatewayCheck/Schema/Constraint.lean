import GatewayCheck.Json.Printer
import GatewayCheck.Pattern.Basic
import GatewayCheck.Schema.Format

/-!
Constraints that a schema places on one value, without looking into other schemas. A constraint on
one type of value holds of every value of another type.
-/
namespace GatewayCheck.Schema

/-- The types of value that a schema can name, in alphabetical order. -/
inductive ValueType where
  | array
  | boolean
  | integer
  | null
  | number
  | object
  | string
  deriving DecidableEq, Repr

namespace ValueType

/-- Every type, in alphabetical order. -/
def all : List ValueType := [array, boolean, integer, null, number, object, string]

/-- The name of a type. -/
def name : ValueType → String
  | array => "array"
  | boolean => "boolean"
  | integer => "integer"
  | null => "null"
  | number => "number"
  | object => "object"
  | string => "string"

/-- The type with the given name. -/
def ofName? (text : String) : Option ValueType := all.find? fun type => type.name = text

/-- A value is of a type; a number without a fractional part is an integer. -/
def includes : ValueType → Json → Bool
  | array, .array _ => true
  | boolean, .bool _ => true
  | integer, .number value => value.isWhole
  | null, .null => true
  | number, .number _ => true
  | object, .object _ => true
  | string, .string _ => true
  | _, _ => false

end ValueType

/-- Members whose keys contain a pattern. -/
structure Family where
  source : String
  pattern : Pattern
  deriving DecidableEq, Repr

/-- A constraint on one value. -/
inductive Constraint where
  | type (types : List ValueType)
  | values (allowed : List Json)
  | constant (expected : Json)
  | minimum (bound : Number)
  | maximum (bound : Number)
  | exclusiveMinimum (bound : Number)
  | exclusiveMaximum (bound : Number)
  | multipleOf (divisor : Number)
  | minLength (least : Nat)
  | maxLength (most : Nat)
  | minItems (least : Nat)
  | maxItems (most : Nat)
  | uniqueItems
  | noItemsBehind (count : Nat)
  | pattern (family : Family)
  | format (format : Format)
  | required (name : String)
  | minProperties (least : Nat)
  | maxProperties (most : Nat)
  | noMembers
  | closed (names : List String) (families : List Family)
  deriving Repr

namespace Constraint

/-- No two items are the same. -/
def areUnique : List Json → Bool
  | [] => true
  | item :: rest => !rest.any item.same && areUnique rest

/-- A key is declared by name or belongs to a family. -/
def isDeclared (names : List String) (families : List Family) (key : String) : Bool :=
  names.contains key || families.any fun family => family.pattern.isFoundIn key

/-- The keys of an object that are not declared. -/
def undeclared (names : List String) (families : List Family) (value : Json) : List String :=
  (value.members.map Prod.fst).filter fun key => !isDeclared names families key

/-- A value satisfies a constraint. -/
def holds : Constraint → Json → Bool
  | type types, value => types.any fun type => type.includes value
  | values allowed, value => allowed.any value.same
  | constant expected, value => value.same expected
  | minimum bound, .number value => !value.below bound
  | maximum bound, .number value => !bound.below value
  | exclusiveMinimum bound, .number value => bound.below value
  | exclusiveMaximum bound, .number value => value.below bound
  | multipleOf divisor, .number value => value.isMultipleOf divisor
  | minLength least, .string text => least ≤ text.length
  | maxLength most, .string text => text.length ≤ most
  | minItems least, .array items => least ≤ items.length
  | maxItems most, .array items => items.length ≤ most
  | uniqueItems, .array items => areUnique items
  | noItemsBehind count, .array items => items.length ≤ count
  | pattern family, .string text => family.pattern.isFoundIn text
  | format wanted, .string text => wanted.includes text
  | required name, .object members => (members.lookup name).isSome
  | minProperties least, .object members => least ≤ members.length
  | maxProperties most, .object members => members.length ≤ most
  | noMembers, .object members => members.isEmpty
  | closed names families, .object members => (undeclared names families (.object members)).isEmpty
  | _, _ => true

/-- A text between double quotes, as it is. -/
def enclosed (text : String) : String := "\"" ++ text ++ "\""

/-- A count with the word for what is counted. -/
def counted (count : Nat) (word : String) : String :=
  Number.wholeText count ++ " " ++ word ++ if count = 1 then "" else "s"

/-- A count of members. -/
def countedMembers (count : Nat) : String :=
  Number.wholeText count ++ if count = 1 then " property" else " properties"

/-- The names of types in alphabetical order. -/
def typeNames (types : List ValueType) : List String :=
  (ValueType.all.filter types.contains).map ValueType.name

/-- The text that says what was not expected. -/
def unexpected (shown : List String) : String :=
  String.intercalate ", " shown ++
    if shown.length = 1 then " was unexpected" else " were unexpected"

/-- The text that says how a value breaks a constraint. -/
def message (value : Json) : Constraint → String
  | type types =>
    match typeNames types with
    | [name] => value.compact ++ " is not of type " ++ enclosed name
    | names =>
      value.compact ++ " is not of types " ++ String.intercalate ", " (names.map enclosed)
  | values allowed => value.compact ++ " is not one of " ++ (Json.array allowed).compact
  | constant expected => expected.compact ++ " was expected"
  | minimum bound => value.compact ++ " is less than the minimum of " ++ bound.text
  | maximum bound => value.compact ++ " is greater than the maximum of " ++ bound.text
  | exclusiveMinimum bound =>
    value.compact ++ " is less than or equal to the minimum of " ++ bound.text
  | exclusiveMaximum bound =>
    value.compact ++ " is greater than or equal to the maximum of " ++ bound.text
  | multipleOf divisor => value.compact ++ " is not a multiple of " ++ divisor.text
  | minLength least => value.compact ++ " is shorter than " ++ counted least "character"
  | maxLength most => value.compact ++ " is longer than " ++ counted most "character"
  | minItems least => value.compact ++ " has less than " ++ counted least "item"
  | maxItems most => value.compact ++ " has more than " ++ counted most "item"
  | uniqueItems => value.compact ++ " has non-unique elements"
  | noItemsBehind count =>
    "Additional items are not allowed (" ++
      unexpected ((value.items.drop count).map Json.compact) ++ ")"
  | pattern family => value.compact ++ " does not match " ++ enclosed family.source
  | format wanted => value.compact ++ " is not a " ++ enclosed wanted.name
  | required name => (Json.string name).compact ++ " is a required property"
  | minProperties least => value.compact ++ " has less than " ++ countedMembers least
  | maxProperties most => value.compact ++ " has more than " ++ countedMembers most
  | noMembers =>
    "False schema does not allow " ++ ((value.members.head?.map Prod.snd).getD value).compact
  | closed names families =>
    "Additional properties are not allowed (" ++
      unexpected ((undeclared names families value).map fun name => "'" ++ name ++ "'") ++ ")"

end Constraint

end GatewayCheck.Schema
