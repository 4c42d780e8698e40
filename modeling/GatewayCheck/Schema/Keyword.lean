import GatewayCheck.Schema.Reference

/-!
Reading a schema from its document. Each keyword is read by itself, in the order of the keywords;
after that, the keywords that speak of each other are put together: `additionalProperties` is about
the members that `properties` and `patternProperties` do not declare, `additionalItems` about the
items behind those that `items` lists, and `if` chooses between `then` and `else`.

The keywords are those of draft 7. Three of them are read as saying nothing: `contentEncoding` and
`contentMediaType`, and `format` when it names another format than those of `Format`. Neither is the
identifier inside a schema read: a schema is found by the address of its document and by its place
there, and `$id` and `$schema` are left to the documents as a whole.
-/
namespace GatewayCheck.Schema

/-- What one keyword says. -/
inductive Keyword where
  | parts (parts : List (List String × Schema))
  | properties (declared : List (String × Schema))
  | patternProperties (families : List (Family × Schema))
  | additionalProperties (others : Option Schema)
  | tuple (positions : List Schema)
  | additionalItems (others : Option Schema)
  | test (schema : Schema)
  | branch (outcome : Bool) (schema : Schema)
  deriving Repr

namespace Keyword

/-- The members declared by the keywords of a schema. -/
def declared (keywords : List Keyword) : List (String × Schema) :=
  keywords.flatMap fun
    | properties declared => declared
    | _ => []

/-- The families of members declared by the keywords of a schema. -/
def families (keywords : List Keyword) : List (Family × Schema) :=
  keywords.flatMap fun
    | patternProperties families => families
    | _ => []

/-- The keyword declares members or families of members. -/
def declares : Keyword → Bool
  | properties _ | patternProperties _ => true
  | _ => false

/-- The keyword restricts the members that are not declared. -/
def restrictsOthers : Keyword → Bool
  | additionalProperties _ => true
  | _ => false

/-- The numbers of items that the keywords of a schema list one by one. -/
def listedItems (keywords : List Keyword) : List Nat :=
  keywords.flatMap fun
    | tuple positions => [positions.length]
    | _ => []

/-- The step to a branch. -/
def branchStep (outcome : Bool) : String := if outcome then "then" else "else"

/-- What the keywords of a schema ask for on one outcome of its test. -/
def branches (outcome : Bool) (keywords : List Keyword) : List (List String × Schema) :=
  keywords.flatMap fun
    | branch side schema => if side = outcome then [([branchStep side], schema)] else []
    | _ => []

/-- The keyword asks for something on one outcome of a test. -/
def isBranch : Keyword → Bool
  | branch _ _ => true
  | _ => false

/-- The parts that a keyword contributes among all keywords of a schema. -/
def contribution (keywords : List Keyword) : Keyword → List (List String × Schema)
  | parts listed => listed
  | properties declared =>
    if keywords.any restrictsOthers then [] else [([], .members declared [] .anything)]
  | patternProperties families =>
    if keywords.any restrictsOthers then []
    else families.map fun family => ([], .members [] [family] .anything)
  | additionalProperties (some others) =>
    [([], .members (declared keywords) (families keywords) others)]
  | additionalProperties none =>
    if keywords.any declares then
      [([], .members (declared keywords) (families keywords) .anything),
        (["additionalProperties"], .constraint (.closed ((declared keywords).map Prod.fst)
          ((families keywords).map Prod.fst)))]
    else [(["additionalProperties"], .constraint .noMembers)]
  | tuple positions => [(["items"], .tuple positions)]
  | additionalItems (some others) =>
    (listedItems keywords).map fun count => (["additionalItems"], .behind count others)
  | additionalItems none =>
    (listedItems keywords).map fun count =>
      (["additionalItems"], .constraint (.noItemsBehind count))
  | test schema =>
    if keywords.any isBranch then
      [([], .conditional schema (.all (branches true keywords)) (.all (branches false keywords)))]
    else []
  | branch _ _ => []

/-- The schema of all keywords together. -/
def together (keywords : List Keyword) : Schema := .all (keywords.flatMap (contribution keywords))

/-- A keyword that is one constraint. -/
def limit (name : String) (constraint : Constraint) : Keyword :=
  parts [([name], .constraint constraint)]

/-- A keyword that says nothing. -/
def silent : Keyword := parts []

/-- A keyword that is one constraint, when its value can be read. -/
def limitOf (name : String) (constraint? : Option Constraint) : Keyword :=
  constraint?.elim silent (limit name)

/-- The count that a number stands for. -/
def count? : Json → Option Nat
  | .number value =>
    let (top, bottom) := value.value
    if value.isWhole && 0 ≤ top then some (top.toNat / bottom) else none
  | _ => none

/-- The number of a bound. -/
def bound? : Json → Option Number
  | .number value => some value
  | _ => none

/-- The types that a schema names, one or several. -/
def types? : Json → Option (List ValueType)
  | .string name => (ValueType.ofName? name).map fun type => [type]
  | .array names => names.mapM fun name => name.asString?.bind ValueType.ofName?
  | _ => none

/-- The family of a pattern; a text that is no pattern has no members. -/
def familyOf (source : String) : Family :=
  ⟨source, (Pattern.ofText? source).getD (.character ⟨false, []⟩)⟩

/-- The keys that a list asks for, each as a part behind the same steps. -/
def requiring (steps : List String) (names : List Json) : List (List String × Schema) :=
  (names.filterMap Json.asString?).map fun key => (steps, .constraint (.required key))

/-- A keyword whose value holds no schemas. -/
def plain (name : String) (value : Json) : Keyword :=
  match name with
  | "type" => limitOf name ((types? value).map .type)
  | "enum" => limit name (.values value.items)
  | "const" => limit name (.constant value)
  | "minimum" => limitOf name ((bound? value).map .minimum)
  | "maximum" => limitOf name ((bound? value).map .maximum)
  | "exclusiveMinimum" => limitOf name ((bound? value).map .exclusiveMinimum)
  | "exclusiveMaximum" => limitOf name ((bound? value).map .exclusiveMaximum)
  | "multipleOf" => limitOf name ((bound? value).map .multipleOf)
  | "minLength" => limitOf name ((count? value).map .minLength)
  | "maxLength" => limitOf name ((count? value).map .maxLength)
  | "minItems" => limitOf name ((count? value).map .minItems)
  | "maxItems" => limitOf name ((count? value).map .maxItems)
  | "minProperties" => limitOf name ((count? value).map .minProperties)
  | "maxProperties" => limitOf name ((count? value).map .maxProperties)
  | "uniqueItems" =>
    match value with
    | .bool true => limit name .uniqueItems
    | _ => silent
  | "pattern" => limitOf name (value.asString?.map fun source => .pattern (familyOf source))
  | "format" => limitOf name ((value.asString?.bind Format.ofName?).map .format)
  | "required" => parts (requiring [name] value.items)
  | _ => silent

/-- What a member of `dependencies` asks for when its key is there: the keys that it lists, or its
schema. -/
def dependency (dependencies : Json) (key : String) (schema : Schema) : List String × Schema :=
  match dependencies.get? key with
  | some (.array names) => (["dependencies"], .dependent key (.all (requiring [] names)))
  | _ => (["dependencies", key], .dependent key schema)

end Keyword

/-- The schemas of a list, each behind its keyword and its index. -/
def indexed (keyword : String) (schemas : List Schema) : List (List String × Schema) :=
  schemas.zipIdx.map fun (schema, index) => ([keyword, indexStep index], schema)

mutual

/-- Reads a schema inside the document with the given address. A reference hides the other
keywords. -/
def read (base : Option String) : Json → Schema
  | .bool false => nothing
  | .object fields =>
    match (fields.lookup "$ref").bind Json.asString? with
    | some text => .all [(["$ref"], .reference (.ofReference base text))]
    | none => Keyword.together (readKeywords base fields)
  | _ => anything
termination_by structural json => json

/-- Reads the keywords of a schema. -/
def readKeywords (base : Option String) : List (String × Json) → List Keyword
  | [] => []
  | (name, value) :: rest =>
    (match name with
      | "allOf" => .parts (indexed name (readList base value))
      | "anyOf" => .parts [([name], .any (readList base value))]
      | "oneOf" => .parts [([name], .one (readList base value))]
      | "not" => .parts [([name], .excluding value (read base value))]
      | "if" => .test (read base value)
      | "then" => .branch true (read base value)
      | "else" => .branch false (read base value)
      | "items" =>
        match value with
        | .array _ => .tuple (readList base value)
        | _ => .parts [([name], .items (read base value))]
      | "additionalItems" =>
        match value with
        | .bool false => .additionalItems none
        | .object _ => .additionalItems (some (read base value))
        | _ => Keyword.silent
      | "contains" => .parts [([name], .containing (read base value))]
      | "dependencies" =>
        .parts ((readMap base value).map fun member =>
          Keyword.dependency value member.1 member.2)
      | "propertyNames" => .parts [([name], .keys (read base value))]
      | "properties" => .properties (readMap base value)
      | "patternProperties" =>
        .patternProperties ((readMap base value).map fun member =>
          (Keyword.familyOf member.1, member.2))
      | "additionalProperties" =>
        match value with
        | .bool false => .additionalProperties none
        | .object _ => .additionalProperties (some (read base value))
        | _ => Keyword.silent
      | _ => Keyword.plain name value) :: readKeywords base rest
termination_by structural fields => fields

/-- Reads a list of schemas. -/
def readList (base : Option String) : Json → List Schema
  | .array elements => readItems base elements
  | _ => []
termination_by structural json => json

/-- Reads the schemas of a list. -/
def readItems (base : Option String) : List Json → List Schema
  | [] => []
  | item :: rest => read base item :: readItems base rest
termination_by structural elements => elements

/-- Reads an object of schemas. -/
def readMap (base : Option String) : Json → List (String × Schema)
  | .object fields => readMembers base fields
  | _ => []
termination_by structural json => json

/-- Reads the schemas of an object. -/
def readMembers (base : Option String) : List (String × Json) → List (String × Schema)
  | [] => []
  | (key, value) :: rest => (key, read base value) :: readMembers base rest
termination_by structural fields => fields

end

end GatewayCheck.Schema
