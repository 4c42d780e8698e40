import GatewayCheck.Schema.Constraint

/-!
Schemas, the documents that they accept, and the violations that they find in the others. A schema
refers to other schemas by their targets; what a target stands for is given from outside.
-/
namespace GatewayCheck

/-- Where a reference leads: a place inside a document with an address, or inside the schema
itself. -/
structure Schema.Target where
  document : Option String
  place : String
  deriving DecidableEq, Repr

/-- A schema. The parts of a conjunction carry the steps that lead to them, and an excluded schema is
shown as it is written. -/
inductive Schema where
  | anything
  | nothing
  | constraint (constraint : Schema.Constraint)
  | reference (target : Schema.Target)
  | all (parts : List (List String × Schema))
  | any (alternatives : List Schema)
  | one (alternatives : List Schema)
  | excluding (shown : Json) (excluded : Schema)
  | conditional (test passed failed : Schema)
  | items (each : Schema)
  | tuple (positions : List Schema)
  | behind (count : Nat) (each : Schema)
  | containing (wanted : Schema)
  | keys (each : Schema)
  | dependent (key : String) (whole : Schema)
  | members (declared : List (String × Schema)) (families : List (Schema.Family × Schema))
      (others : Schema)
  deriving Repr, Inhabited

namespace Schema

/-- What a violation breaks. Of alternatives that exclude each other, none or several may accept. -/
inductive Cause where
  | constraint (constraint : Constraint)
  | nothing
  | any
  | noneOf
  | severalOf
  | excluded (shown : Json)
  | uncontained
  deriving Repr

/-- A violation: the way to the value, the way to the part of the schema, the value and the
cause. -/
structure Violation where
  instancePath : List String
  schemaPath : List String
  value : Json
  cause : Cause
  deriving Repr

namespace Violation

/-- A violation seen from further out. -/
def under (violation : Violation) (instanceSteps schemaSteps : List String) : Violation :=
  { violation with
    instancePath := instanceSteps ++ violation.instancePath
    schemaPath := schemaSteps ++ violation.schemaPath }

/-- The text of a violation. -/
def message (violation : Violation) : String :=
  match violation.cause with
  | .constraint limit => limit.message violation.value
  | .nothing => "False schema does not allow " ++ violation.value.compact
  | .any =>
    violation.value.compact ++
      " is not valid under any of the schemas listed in the 'anyOf' keyword"
  | .noneOf =>
    violation.value.compact ++
      " is not valid under any of the schemas listed in the 'oneOf' keyword"
  | .severalOf =>
    violation.value.compact ++
      " is valid under more than one of the schemas listed in the 'oneOf' keyword"
  | .excluded shown => shown.compact ++ " is not allowed for " ++ violation.value.compact
  | .uncontained => "None of " ++ violation.value.compact ++ " are valid under the given schema"

end Violation

/-- The step to an item. -/
def indexStep (index : Nat) : String := Number.wholeText index

mutual

/-- A schema accepts a value. -/
def accepts (meaning : Target → Json → Bool) : Schema → Json → Bool
  | anything, _ => true
  | nothing, _ => false
  | constraint limit, value => limit.holds value
  | reference target, value => meaning target value
  | all parts, value => acceptsParts meaning parts value
  | any alternatives, value => acceptsSome meaning alternatives value
  | one alternatives, value => countAccepting meaning alternatives value == 1
  | excluding _ excluded, value => !excluded.accepts meaning value
  | conditional test passed failed, value =>
    if test.accepts meaning value then passed.accepts meaning value
    else failed.accepts meaning value
  | items each, value => value.items.all fun item => each.accepts meaning item
  | tuple positions, value => acceptsTuple meaning positions value.items
  | behind count each, value => (value.items.drop count).all fun item => each.accepts meaning item
  | containing wanted, value =>
    !ValueType.array.includes value || value.items.any fun item => wanted.accepts meaning item
  | keys each, value => value.members.all fun member => each.accepts meaning (.string member.1)
  | dependent key whole, value => (value.get? key).isNone || whole.accepts meaning value
  | members declared families others, value =>
    value.members.all fun member =>
      acceptsDeclared meaning declared member.1 member.2 &&
        acceptsFamilies meaning families member.1 member.2 &&
        (Constraint.isDeclared (declared.map Prod.fst) (families.map Prod.fst) member.1 ||
          others.accepts meaning member.2)
termination_by structural schema => schema

/-- Every part accepts a value. -/
def acceptsParts (meaning : Target → Json → Bool) : List (List String × Schema) → Json → Bool
  | [], _ => true
  | (_, part) :: rest, value => part.accepts meaning value && acceptsParts meaning rest value
termination_by structural parts => parts

/-- Some alternative accepts a value. -/
def acceptsSome (meaning : Target → Json → Bool) : List Schema → Json → Bool
  | [], _ => false
  | first :: rest, value => first.accepts meaning value || acceptsSome meaning rest value
termination_by structural alternatives => alternatives

/-- The number of alternatives that accept a value. -/
def countAccepting (meaning : Target → Json → Bool) : List Schema → Json → Nat
  | [], _ => 0
  | first :: rest, value =>
    (if first.accepts meaning value then 1 else 0) + countAccepting meaning rest value
termination_by structural alternatives => alternatives

/-- Each position accepts the item in its place. -/
def acceptsTuple (meaning : Target → Json → Bool) : List Schema → List Json → Bool
  | first :: rest, item :: others => first.accepts meaning item && acceptsTuple meaning rest others
  | _, _ => true
termination_by structural positions => positions

/-- The schema declared for a key accepts its value. -/
def acceptsDeclared (meaning : Target → Json → Bool) : List (String × Schema) → String → Json → Bool
  | [], _, _ => true
  | (name, schema) :: rest, key, value =>
    if name = key then schema.accepts meaning value else acceptsDeclared meaning rest key value
termination_by structural declared => declared

/-- The schema of every family of a key accepts its value. -/
def acceptsFamilies (meaning : Target → Json → Bool) : List (Family × Schema) → String → Json → Bool
  | [], _, _ => true
  | (family, schema) :: rest, key, value =>
    (!family.pattern.isFoundIn key || schema.accepts meaning value) &&
      acceptsFamilies meaning rest key value
termination_by structural families => families

end

mutual

/-- The violations of a schema in a value, part by part in order. -/
def violations (meaning : Target → Json → List Violation) : Schema → Json → List Violation
  | anything, _ => []
  | nothing, value => [⟨[], [], value, .nothing⟩]
  | constraint limit, value =>
    if limit.holds value then [] else [⟨[], [], value, .constraint limit⟩]
  | reference target, value => meaning target value
  | all parts, value => violationsOfParts meaning parts value
  | any alternatives, value =>
    if hasAccepting meaning alternatives value then [] else [⟨[], [], value, .any⟩]
  | one alternatives, value =>
    match countFaultless meaning alternatives value with
    | 0 => [⟨[], [], value, .noneOf⟩]
    | 1 => []
    | _ => [⟨[], [], value, .severalOf⟩]
  | excluding shown excluded, value =>
    if (excluded.violations meaning value).isEmpty then [⟨[], [], value, .excluded shown⟩] else []
  | conditional test passed failed, value =>
    if (test.violations meaning value).isEmpty then passed.violations meaning value
    else failed.violations meaning value
  | items each, value =>
    value.items.zipIdx.flatMap fun (item, index) =>
      (each.violations meaning item).map fun found => found.under [indexStep index] []
  | tuple positions, value => violationsOfTuple meaning positions value.items 0
  | behind count each, value =>
    (value.items.zipIdx.drop count).flatMap fun (item, index) =>
      (each.violations meaning item).map fun found => found.under [indexStep index] []
  | containing wanted, value =>
    if !ValueType.array.includes value ||
        value.items.any fun item => (wanted.violations meaning item).isEmpty then []
    else [⟨[], [], value, .uncontained⟩]
  | keys each, value =>
    value.members.flatMap fun member => each.violations meaning (.string member.1)
  | dependent key whole, value =>
    if (value.get? key).isNone then [] else whole.violations meaning value
  | members declared families others, value =>
    value.members.flatMap fun member =>
      violationsOfDeclared meaning declared member.1 member.2 ++
        violationsOfFamilies meaning families member.1 member.2 ++
        if Constraint.isDeclared (declared.map Prod.fst) (families.map Prod.fst) member.1 then []
        else
          (others.violations meaning member.2).map fun found =>
            found.under [member.1] ["additionalProperties"]
termination_by structural schema => schema

/-- The violations of all parts, each behind the steps that lead to it. -/
def violationsOfParts (meaning : Target → Json → List Violation) :
    List (List String × Schema) → Json → List Violation
  | [], _ => []
  | (steps, part) :: rest, value =>
    ((part.violations meaning value).map fun found => found.under [] steps) ++
      violationsOfParts meaning rest value
termination_by structural parts => parts

/-- Some alternative has no violations. -/
def hasAccepting (meaning : Target → Json → List Violation) : List Schema → Json → Bool
  | [], _ => false
  | first :: rest, value =>
    (first.violations meaning value).isEmpty || hasAccepting meaning rest value
termination_by structural alternatives => alternatives

/-- The number of alternatives that have no violations. -/
def countFaultless (meaning : Target → Json → List Violation) : List Schema → Json → Nat
  | [], _ => 0
  | first :: rest, value =>
    (if (first.violations meaning value).isEmpty then 1 else 0) +
      countFaultless meaning rest value
termination_by structural alternatives => alternatives

/-- The violations of each position in the item in its place. -/
def violationsOfTuple (meaning : Target → Json → List Violation) :
    List Schema → List Json → (index : Nat) → List Violation
  | first :: rest, item :: others, index =>
    ((first.violations meaning item).map fun found =>
        found.under [indexStep index] [indexStep index]) ++
      violationsOfTuple meaning rest others (index + 1)
  | _, _, _ => []
termination_by structural positions => positions

/-- The violations of the schema declared for a key. -/
def violationsOfDeclared (meaning : Target → Json → List Violation) :
    List (String × Schema) → String → Json → List Violation
  | [], _, _ => []
  | (name, schema) :: rest, key, value =>
    if name = key then
      (schema.violations meaning value).map fun found => found.under [key] ["properties", key]
    else violationsOfDeclared meaning rest key value
termination_by structural declared => declared

/-- The violations of the schemas of all families of a key. -/
def violationsOfFamilies (meaning : Target → Json → List Violation) :
    List (Family × Schema) → String → Json → List Violation
  | [], _, _ => []
  | (family, schema) :: rest, key, value =>
    (if family.pattern.isFoundIn key then
        (schema.violations meaning value).map fun found =>
          found.under [key] ["patternProperties", family.source]
      else []) ++
      violationsOfFamilies meaning rest key value
termination_by structural families => families

end

end Schema

end GatewayCheck
