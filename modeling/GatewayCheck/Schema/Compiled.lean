import GatewayCheck.Schema.Keyword
import GatewayCheck.Schema.Metaschema

/-!
Compiled schemas: a schema with the schemas of all targets that it reaches. Compiling looks for
missing documents first, then checks the schema against the schema of schemas, and then follows the
references.
-/
namespace GatewayCheck.Schema

/-- The documents that references can lead to, by their addresses. -/
abbrev Documents := String → Option Json

/-- Why a schema cannot be used. -/
inductive Defect where
  | missingDocument (address : String)
  | invalid (violation : Violation)
  | missingPlace (place : String)
  deriving Repr

/-- The text of a defect. -/
def Defect.message : Defect → String
  | missingDocument address =>
    "Resource '" ++ address ++ "' is not present in a registry and retrieving it failed: " ++
      "schema not found for URI: " ++ address
  | invalid violation => violation.message
  | missingPlace place =>
    (if place.toList.head? = some '/' then "Pointer '" else "Anchor '") ++ place ++
      "' does not exist"

mutual

/-- The targets of the references in a schema, part by part in order. -/
def targets : Schema → List Target
  | anything | nothing | constraint _ => []
  | reference target => [target]
  | all parts => targetsOfParts parts
  | any alternatives | one alternatives => targetsOfList alternatives
  | excluding _ excluded => excluded.targets
  | conditional test passed failed => test.targets ++ passed.targets ++ failed.targets
  | items each | behind _ each => each.targets
  | tuple positions => targetsOfList positions
  | containing wanted => wanted.targets
  | keys each => each.targets
  | dependent _ whole => whole.targets
  | members declared families others =>
    targetsOfDeclared declared ++ targetsOfFamilies families ++ others.targets
termination_by structural schema => schema

/-- The targets of the references in parts. -/
def targetsOfParts : List (List String × Schema) → List Target
  | [] => []
  | (_, part) :: rest => part.targets ++ targetsOfParts rest
termination_by structural parts => parts

/-- The targets of the references in a list of schemas. -/
def targetsOfList : List Schema → List Target
  | [] => []
  | first :: rest => first.targets ++ targetsOfList rest
termination_by structural schemas => schemas

/-- The targets of the references in the schemas of declared members. -/
def targetsOfDeclared : List (String × Schema) → List Target
  | [] => []
  | (_, schema) :: rest => schema.targets ++ targetsOfDeclared rest
termination_by structural declared => declared

/-- The targets of the references in the schemas of families of members. -/
def targetsOfFamilies : List (Family × Schema) → List Target
  | [] => []
  | (_, schema) :: rest => schema.targets ++ targetsOfFamilies rest
termination_by structural families => families

end

/-- The schema of every target that is reached. -/
abbrev Table := List (Target × Schema)

/-- A schema with the schemas of its targets. -/
structure Compiled where
  root : Schema
  table : Table
  deriving Repr, Inhabited

/-- Acceptance at a target, following at most `steps` references. -/
def acceptsAt (table : Table) : (steps : Nat) → Target → Json → Bool
  | 0, _, _ => true
  | steps + 1, target, value =>
    match table.lookup target with
    | some schema => schema.accepts (acceptsAt table steps) value
    | none => true

/-- Violations at a target, following at most `steps` references. -/
def violationsAt (table : Table) : (steps : Nat) → Target → Json → List Violation
  | 0, _, _ => []
  | steps + 1, target, value =>
    match table.lookup target with
    | some schema => schema.violations (violationsAt table steps) value
    | none => []

namespace Compiled

/-- References enough for a value: between one level of the value and the next, no target is met
twice. -/
def stepsFor (compiled : Compiled) (value : Json) : Nat :=
  (value.depth + 1) * (compiled.table.length + 1)

/-- A compiled schema accepts a value. -/
def accepts (compiled : Compiled) (value : Json) : Bool :=
  compiled.root.accepts (acceptsAt compiled.table (compiled.stepsFor value)) value

/-- The violations of a compiled schema in a value. -/
def violations (compiled : Compiled) (value : Json) : List Violation :=
  compiled.root.violations (violationsAt compiled.table (compiled.stepsFor value)) value

end Compiled

/-- The targets of the references that are written in a document. -/
def writtenTargets (base : Option String) (json : Json) : List Target :=
  json.references.map (Target.ofReference base)

/-- The document of a target. The schema of schemas is found at its published address, whatever
documents there are. -/
def documentOf (documents : Documents) (schema : Json) (target : Target) : Option Json :=
  target.document.elim (some schema) fun address =>
    if address = metaschemaAddress then some metaschema else documents address

/-- A bound on the number of references that are followed; no schema has as many. -/
def mostReferences : Nat := Nat.pow 2 64

/-- The first address that has no document, among those that the pending targets lead to. Of every
document that is reached, the references in the whole document count too. -/
def firstMissing (documents : Documents) (schema : Json) :
    (fuel : Nat) → (seen pending : List Target) → Option String
  | 0, _, _ | _ + 1, _, [] => none
  | fuel + 1, seen, target :: rest =>
    if seen.contains target then firstMissing documents schema fuel seen rest
    else
      match documentOf documents schema target, target.document with
      | none, address => address
      | some document, none =>
        let found := ((document.atPlace? target.place).map (writtenTargets none)).getD []
        firstMissing documents schema fuel (target :: seen) (found ++ rest)
      | some document, some address =>
        let found := ((document.atPlace? target.place).map (writtenTargets address)).getD []
        firstMissing documents schema fuel (target :: seen) (⟨address, ""⟩ :: found ++ rest)

/-- Adds the schemas of the pending targets, and of the targets that these reach, to a table. A
target that is left over when the fuel is spent counts as missing, so that every table is complete. -/
def gather (documents : Documents) (schema : Json) :
    (fuel : Nat) → Table → (pending : List Target) → Except Defect Table
  | _, table, [] => .ok table
  | 0, _, target :: _ => .error (.missingPlace target.place)
  | fuel + 1, table, target :: rest =>
    if (table.lookup target).isSome then gather documents schema fuel table rest
    else
      match (documentOf documents schema target).bind (Json.atPlace? target.place) with
      | none => .error (.missingPlace target.place)
      | some json =>
        let found := read target.document json
        gather documents schema fuel ((target, found) :: table) (found.targets ++ rest)

/-- The schema of a document together with the schemas that it reaches. -/
def link (documents : Documents) (schema : Json) : Except Defect Compiled := do
  let root := read none schema
  let table ← gather documents schema mostReferences [] root.targets
  return ⟨root, table⟩

/-- The compiled schema of schemas. -/
def compiledMetaschema : Compiled :=
  match link (fun _ => none) metaschema with
  | .ok compiled => compiled
  | .error _ => ⟨anything, []⟩

/-- Compiles the schema of a document. -/
def compile (documents : Documents) (schema : Json) : Except Defect Compiled :=
  match firstMissing documents schema mostReferences [] (writtenTargets none schema) with
  | some address => .error (.missingDocument address)
  | none =>
    match (compiledMetaschema.violations schema).head? with
    | some violation => .error (.invalid violation)
    | none => link documents schema

end GatewayCheck.Schema
