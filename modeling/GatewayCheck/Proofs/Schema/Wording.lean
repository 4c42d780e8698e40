import GatewayCheck.Proofs.Json.Wording
import GatewayCheck.Proofs.Schema.Reach

/-!
The wording of violations. A message shows values on one line, but the keys that were not expected
stand in it as they are, like the sources of patterns, and the steps to a value are keys as well. So
no violation holds a line break when neither the keys of the document nor the texts of the schema do.
-/
namespace GatewayCheck.Schema

/-! ### Messages -/

namespace Constraint

/-- The text that a constraint shows as it is holds no line break. -/
def isUnbroken : Constraint → Bool
  | pattern family => Text.isUnbroken family.source
  | _ => true

/-- A text between quotes holds no line break when the text holds none. -/
theorem isUnbroken_enclosed (text : String) :
    Text.isUnbroken (enclosed text) = Text.isUnbroken text := by
  rw [enclosed, Text.isUnbroken_append, Text.isUnbroken_append, Bool.and_comm, ← Bool.and_assoc]
  rfl

/-- A count of things whose name holds no line break holds none. -/
theorem isUnbroken_counted {word : String} (named : Text.isUnbroken word = true) (count : Nat) :
    Text.isUnbroken (counted count word) = true := by
  simp only [counted, Text.isUnbroken_append, Json.isUnbroken_wholeText, named]
  split <;> rfl

/-- A count of members holds no line break. -/
theorem isUnbroken_countedMembers (count : Nat) : Text.isUnbroken (countedMembers count) = true := by
  rw [countedMembers, Text.isUnbroken_append, Json.isUnbroken_wholeText]
  split <;> rfl

/-- The names of types hold no line break. -/
theorem isUnbroken_typeNames (types : List ValueType) :
    ∀ name ∈ typeNames types, Text.isUnbroken name = true := by
  intro name listed
  obtain ⟨type, -, rfl⟩ := List.mem_map.1 listed
  cases type <;> rfl

/-- The text about what was not expected holds no line break when what is shown holds none. -/
theorem isUnbroken_unexpected {shown : List String}
    (each : ∀ text ∈ shown, Text.isUnbroken text = true) :
    Text.isUnbroken (unexpected shown) = true := by
  have between : Text.isUnbroken ", " = true := rfl
  have together := Text.isUnbroken_intercalate between each
  rw [unexpected, Text.isUnbroken_append, together]
  split <;> rfl

/-- Keys that are not declared are keys of the value, and stand between quotes. -/
theorem isUnbroken_undeclared {value : Json} (keys : value.hasUnbrokenKeys = true)
    (names : List String) (families : List Family) :
    ∀ text ∈ (undeclared names families value).map fun name => "'" ++ name ++ "'",
      Text.isUnbroken text = true := by
  intro text listed
  obtain ⟨key, unknown, rfl⟩ := List.mem_map.1 listed
  obtain ⟨member, inside, rfl⟩ := List.mem_map.1 (List.mem_filter.1 unknown).1
  rw [Text.isUnbroken_append, Text.isUnbroken_append, (Json.isWorded_member keys member inside).1]
  rfl

/-- What is said of a value holds no line break when neither the words nor the text that follows
them do. -/
theorem isUnbroken_said (value : Json) {words shown : String}
    (plain : Text.isUnbroken words = true) (following : Text.isUnbroken shown = true) :
    Text.isUnbroken (value.compact ++ words ++ shown) = true := by
  rw [Text.isUnbroken_append, Text.isUnbroken_append, value.isUnbroken_compact, plain, following]
  rfl

/-- A value of another type is reported without line breaks. -/
theorem isUnbroken_message_type (types : List ValueType) (value : Json) :
    Text.isUnbroken ((type types).message value) = true := by
  have names := isUnbroken_typeNames types
  unfold message
  dsimp only
  split
  · rename_i name same
    have named : Text.isUnbroken name = true := names name (by rw [same]; exact List.mem_cons_self)
    exact isUnbroken_said value rfl ((isUnbroken_enclosed name).trans named)
  · exact isUnbroken_said value rfl (Text.isUnbroken_intercalate rfl
      (List.forall_mem_map.2 fun name listed =>
        (isUnbroken_enclosed name).trans (names name listed)))

/-- A broken constraint is reported without line breaks. -/
theorem isUnbroken_message {limit : Constraint} {value : Json} (plain : limit.isUnbroken = true)
    (keys : value.hasUnbrokenKeys = true) : Text.isUnbroken (limit.message value) = true := by
  cases limit with
  | type types => exact isUnbroken_message_type types value
  | values allowed => exact isUnbroken_said value rfl (Json.isUnbroken_compact _)
  | constant expected =>
    show Text.isUnbroken (expected.compact ++ _) = true
    rw [Text.isUnbroken_append, expected.isUnbroken_compact]
    rfl
  | minimum bound | maximum bound | exclusiveMinimum bound | exclusiveMaximum bound
  | multipleOf bound =>
    exact isUnbroken_said value rfl (Json.isUnbroken_number bound)
  | minLength count | maxLength count | minItems count | maxItems count =>
    exact isUnbroken_said value rfl (isUnbroken_counted rfl count)
  | minProperties count | maxProperties count =>
    exact isUnbroken_said value rfl (isUnbroken_countedMembers count)
  | noItemsBehind count =>
    have listed : Text.isUnbroken (unexpected ((value.items.drop count).map Json.compact)) = true :=
      isUnbroken_unexpected (List.forall_mem_map.2 fun item _ => item.isUnbroken_compact)
    show Text.isUnbroken (_ ++ unexpected _ ++ ")") = true
    rw [Text.isUnbroken_append, Text.isUnbroken_append, listed]
    rfl
  | uniqueItems =>
    show Text.isUnbroken (value.compact ++ _) = true
    rw [Text.isUnbroken_append, value.isUnbroken_compact]
    rfl
  | pattern family =>
    have source : Text.isUnbroken family.source = true := plain
    exact isUnbroken_said value rfl ((isUnbroken_enclosed _).trans source)
  | format wanted =>
    have named : Text.isUnbroken wanted.name = true := by cases wanted <;> rfl
    exact isUnbroken_said value rfl ((isUnbroken_enclosed _).trans named)
  | required name =>
    show Text.isUnbroken ((Json.string name).compact ++ _) = true
    rw [Text.isUnbroken_append, Json.isUnbroken_compact]
    rfl
  | noMembers =>
    show Text.isUnbroken ("False schema does not allow " ++ Json.compact _) = true
    rw [Text.isUnbroken_append, Json.isUnbroken_compact]
    rfl
  | closed names families =>
    have listed := isUnbroken_unexpected (isUnbroken_undeclared keys names families)
    show Text.isUnbroken (_ ++ unexpected _ ++ ")") = true
    rw [Text.isUnbroken_append, Text.isUnbroken_append, listed]
    rfl

end Constraint

/-- The text of a violation holds no line break when the keys of the value and the text that its
constraint shows hold none. -/
theorem Violation.isUnbroken_message {violation : Violation}
    (keys : violation.value.hasUnbrokenKeys = true)
    (plain : ∀ limit, violation.cause = .constraint limit → limit.isUnbroken = true) :
    Text.isUnbroken violation.message = true := by
  have shown := violation.value.isUnbroken_compact
  rw [message]
  split
  case h_1 limit cause => exact Constraint.isUnbroken_message (plain limit cause) keys
  case h_6 excluded _ =>
    rw [Text.isUnbroken_append, Text.isUnbroken_append, excluded.isUnbroken_compact, shown]
    rfl
  all_goals
    simp only [Text.isUnbroken_append, shown]
    rfl

/-! ### Violations -/

/-- The texts that a schema shows as they are, which are the sources of its patterns and the steps to
its parts, hold no line break. -/
inductive IsUnbroken : Schema → Prop
  | anything : IsUnbroken anything
  | nothing : IsUnbroken nothing
  | constraint {limit : Constraint} (plain : limit.isUnbroken = true) :
    IsUnbroken (constraint limit)
  | reference (target : Target) : IsUnbroken (reference target)
  | all {parts : List (List String × Schema)}
    (steps : ∀ part ∈ parts, ∀ step ∈ part.1, Text.isUnbroken step = true)
    (each : ∀ part ∈ parts, IsUnbroken part.2) : IsUnbroken (all parts)
  | any (alternatives : List Schema) : IsUnbroken (any alternatives)
  | one (alternatives : List Schema) : IsUnbroken (one alternatives)
  | excluding (shown : Json) (excluded : Schema) : IsUnbroken (excluding shown excluded)
  | conditional (test : Schema) {passed failed : Schema} (pass : IsUnbroken passed)
    (fail : IsUnbroken failed) : IsUnbroken (conditional test passed failed)
  | items {each : Schema} (inside : IsUnbroken each) : IsUnbroken (items each)
  | tuple {positions : List Schema} (each : ∀ position ∈ positions, IsUnbroken position) :
    IsUnbroken (tuple positions)
  | behind (count : Nat) {each : Schema} (inside : IsUnbroken each) : IsUnbroken (behind count each)
  | containing (wanted : Schema) : IsUnbroken (containing wanted)
  | keys {each : Schema} (inside : IsUnbroken each) : IsUnbroken (keys each)
  | dependent (key : String) {whole : Schema} (inside : IsUnbroken whole) :
    IsUnbroken (dependent key whole)
  | members {declared : List (String × Schema)} {families : List (Family × Schema)}
    {others : Schema} (named : ∀ member ∈ declared, IsUnbroken member.2)
    (sources : ∀ member ∈ families, Text.isUnbroken member.1.source = true)
    (grouped : ∀ member ∈ families, IsUnbroken member.2) (rest : IsUnbroken others) :
    IsUnbroken (members declared families others)

/-- Neither the way to a value, nor the way to the part of the schema, nor the text of a violation
holds a line break. -/
structure Violation.IsUnbroken (violation : Violation) : Prop where
  instancePath : ∀ step ∈ violation.instancePath, Text.isUnbroken step = true
  schemaPath : ∀ step ∈ violation.schemaPath, Text.isUnbroken step = true
  message : Text.isUnbroken violation.message = true

/-- A violation at the place where it is found holds no line break when its text holds none. -/
theorem Violation.isUnbroken_here {value : Json} {cause : Cause}
    (keys : value.hasUnbrokenKeys = true)
    (plain : ∀ limit, cause = .constraint limit → limit.isUnbroken = true) :
    Violation.IsUnbroken ⟨[], [], value, cause⟩ where
  instancePath := nofun
  schemaPath := nofun
  message := isUnbroken_message keys plain

/-- A violation seen from further out holds no line break when the steps hold none. -/
theorem Violation.IsUnbroken.under {violation : Violation} (unbroken : violation.IsUnbroken)
    {instanceSteps schemaSteps : List String}
    (within : ∀ step ∈ instanceSteps, Text.isUnbroken step = true)
    (through : ∀ step ∈ schemaSteps, Text.isUnbroken step = true) :
    (violation.under instanceSteps schemaSteps).IsUnbroken where
  instancePath step listed :=
    (List.mem_append.1 listed).elim (within step) (unbroken.instancePath step)
  schemaPath step listed :=
    (List.mem_append.1 listed).elim (through step) (unbroken.schemaPath step)
  message := unbroken.message

/-- Nothing that is found at a target, in a value whose keys hold no line break, holds one. -/
def AreUnbroken (found : Target → Json → List Violation) : Prop :=
  ∀ target value, value.hasUnbrokenKeys = true → ∀ violation ∈ found target value,
    violation.IsUnbroken

section Violations

variable {found : Target → Json → List Violation}

/-- Violations seen from further out hold no line break when neither they nor the steps do. -/
theorem unbroken_under {violations : List Violation}
    (each : ∀ violation ∈ violations, violation.IsUnbroken) {instanceSteps schemaSteps : List String}
    (within : ∀ step ∈ instanceSteps, Text.isUnbroken step = true)
    (through : ∀ step ∈ schemaSteps, Text.isUnbroken step = true) :
    ∀ violation ∈ violations.map fun found => found.under instanceSteps schemaSteps,
      violation.IsUnbroken := by
  intro violation listed
  obtain ⟨inner, inside, rfl⟩ := List.mem_map.1 listed
  exact (each inner inside).under within through

/-- The step to an item holds no line break. -/
theorem isUnbroken_indexStep (index : Nat) : ∀ step ∈ [indexStep index],
    Text.isUnbroken step = true := by
  simpa [indexStep] using Json.isUnbroken_wholeText index

mutual

/-- No violation of a schema holds a line break when the schema shows none and the keys of the value
hold none. -/
theorem unbroken_violations (meaning : AreUnbroken found) : ∀ (schema : Schema) (value : Json),
    schema.IsUnbroken → value.hasUnbrokenKeys = true →
      ∀ violation ∈ schema.violations found value, violation.IsUnbroken
  | anything, _, _, _, _, listed => nomatch listed
  | nothing, value, _, quiet, violation, listed => by
    obtain rfl := List.mem_singleton.1 listed
    exact Violation.isUnbroken_here quiet nofun
  | constraint limit, value, unbroken, quiet, violation, listed => by
    rw [violations] at listed
    split at listed
    · cases listed
    · obtain rfl := List.mem_singleton.1 listed
      refine Violation.isUnbroken_here quiet fun other same => ?_
      cases same
      cases unbroken with
      | constraint plain => exact plain
  | reference target, value, _, quiet, violation, listed => meaning target value quiet violation listed
  | all parts, value, unbroken, quiet, violation, listed => by
    cases unbroken with
    | all steps each => exact unbroken_violationsOfParts meaning parts value steps each quiet _ listed
  | any alternatives, value, _, quiet, violation, listed => by
    rw [violations] at listed
    split at listed
    · cases listed
    · obtain rfl := List.mem_singleton.1 listed
      exact Violation.isUnbroken_here quiet nofun
  | one alternatives, value, _, quiet, violation, listed => by
    rw [violations] at listed
    split at listed
    · obtain rfl := List.mem_singleton.1 listed
      exact Violation.isUnbroken_here quiet nofun
    · cases listed
    · obtain rfl := List.mem_singleton.1 listed
      exact Violation.isUnbroken_here quiet nofun
  | excluding shown excluded, value, _, quiet, violation, listed => by
    rw [violations] at listed
    split at listed
    · obtain rfl := List.mem_singleton.1 listed
      exact Violation.isUnbroken_here quiet nofun
    · cases listed
  | conditional test passed failed, value, unbroken, quiet, violation, listed => by
    rw [violations] at listed
    cases unbroken with
    | conditional _ pass fail =>
      split at listed
      · exact unbroken_violations meaning passed value pass quiet violation listed
      · exact unbroken_violations meaning failed value fail quiet violation listed
  | items each, value, unbroken, quiet, violation, listed => by
    obtain ⟨⟨item, index⟩, inside, listed⟩ := List.mem_flatMap.1 listed
    have part := Json.isWorded_item quiet item (List.fst_mem_of_mem_zipIdx inside)
    cases unbroken with
    | items whole =>
      exact unbroken_under (unbroken_violations meaning each item whole part)
        (isUnbroken_indexStep index) (List.forall_mem_nil _) violation listed
  | tuple positions, value, unbroken, quiet, violation, listed => by
    cases unbroken with
    | tuple each =>
      exact unbroken_violationsOfTuple meaning positions value.items 0 each
        (Json.isWorded_item quiet) violation listed
  | behind count each, value, unbroken, quiet, violation, listed => by
    obtain ⟨⟨item, index⟩, inside, listed⟩ := List.mem_flatMap.1 listed
    have part := Json.isWorded_item quiet item
      (List.fst_mem_of_mem_zipIdx (List.mem_of_mem_drop inside))
    cases unbroken with
    | behind _ whole =>
      exact unbroken_under (unbroken_violations meaning each item whole part)
        (isUnbroken_indexStep index) (List.forall_mem_nil _) violation listed
  | containing wanted, value, _, quiet, violation, listed => by
    rw [violations] at listed
    split at listed
    · cases listed
    · obtain rfl := List.mem_singleton.1 listed
      exact Violation.isUnbroken_here quiet nofun
  | keys each, value, unbroken, _, violation, listed => by
    obtain ⟨member, -, listed⟩ := List.mem_flatMap.1 listed
    cases unbroken with
    | keys whole =>
      exact unbroken_violations meaning each (.string member.1) whole rfl violation listed
  | dependent key whole, value, unbroken, quiet, violation, listed => by
    rw [violations] at listed
    split at listed
    · cases listed
    · cases unbroken with
      | dependent _ inside =>
        exact unbroken_violations meaning whole value inside quiet violation listed
  | members declared families others, value, unbroken, quiet, violation, listed => by
    rw [violations] at listed
    obtain ⟨member, inside, listed⟩ := List.mem_flatMap.1 listed
    obtain ⟨key, part⟩ := Json.isWorded_member quiet member inside
    cases unbroken with
    | members named sources grouped rest =>
      rw [List.mem_append, List.mem_append] at listed
      obtain (listed | listed) | listed := listed
      · exact unbroken_violationsOfDeclared meaning declared member.1 member.2 named key part
          violation listed
      · exact unbroken_violationsOfFamilies meaning families member.1 member.2 sources grouped key
          part violation listed
      · split at listed
        · cases listed
        · exact unbroken_under (unbroken_violations meaning others member.2 rest part)
            (List.forall_mem_singleton.2 key) (List.forall_mem_singleton.2 rfl) violation listed
termination_by structural schema => schema

/-- No violation of the parts of a schema holds a line break. -/
theorem unbroken_violationsOfParts (meaning : AreUnbroken found) :
    ∀ (parts : List (List String × Schema)) (value : Json),
      (∀ part ∈ parts, ∀ step ∈ part.1, Text.isUnbroken step = true) →
        (∀ part ∈ parts, part.2.IsUnbroken) → value.hasUnbrokenKeys = true →
          ∀ violation ∈ violationsOfParts found parts value, violation.IsUnbroken
  | [], _, _, _, _, _, listed => nomatch listed
  | (path, part) :: rest, value, steps, each, quiet, violation, listed => by
    obtain ⟨through, steps⟩ := List.forall_mem_cons.1 steps
    obtain ⟨whole, each⟩ := List.forall_mem_cons.1 each
    obtain listed | listed := List.mem_append.1 listed
    · exact unbroken_under (unbroken_violations meaning part value whole quiet)
        (List.forall_mem_nil _) through violation listed
    · exact unbroken_violationsOfParts meaning rest value steps each quiet violation listed
termination_by structural parts => parts

/-- No violation of positions holds a line break. -/
theorem unbroken_violationsOfTuple (meaning : AreUnbroken found) :
    ∀ (positions : List Schema) (items : List Json) (index : Nat),
      (∀ position ∈ positions, position.IsUnbroken) →
        (∀ item ∈ items, item.hasUnbrokenKeys = true) →
          ∀ violation ∈ violationsOfTuple found positions items index, violation.IsUnbroken
  | [], _, _, _, _, _, listed => nomatch listed
  | _ :: _, [], _, _, _, _, listed => nomatch listed
  | first :: rest, item :: others, index, each, quiet, violation, listed => by
    obtain ⟨whole, each⟩ := List.forall_mem_cons.1 each
    obtain ⟨part, quiet⟩ := List.forall_mem_cons.1 quiet
    obtain listed | listed := List.mem_append.1 listed
    · exact unbroken_under (unbroken_violations meaning first item whole part)
        (isUnbroken_indexStep index) (isUnbroken_indexStep index) violation listed
    · exact unbroken_violationsOfTuple meaning rest others (index + 1) each quiet violation listed
termination_by structural positions => positions

/-- No violation of declared members holds a line break. -/
theorem unbroken_violationsOfDeclared (meaning : AreUnbroken found) :
    ∀ (declared : List (String × Schema)) (key : String) (value : Json),
      (∀ member ∈ declared, member.2.IsUnbroken) → Text.isUnbroken key = true →
        value.hasUnbrokenKeys = true →
          ∀ violation ∈ violationsOfDeclared found declared key value, violation.IsUnbroken
  | [], _, _, _, _, _, _, listed => nomatch listed
  | (name, schema) :: rest, key, value, each, named, quiet, violation, listed => by
    obtain ⟨whole, each⟩ := List.forall_mem_cons.1 each
    rw [violationsOfDeclared] at listed
    split at listed
    · exact unbroken_under (unbroken_violations meaning schema value whole quiet)
        (List.forall_mem_singleton.2 named)
        (List.forall_mem_cons.2 ⟨rfl, List.forall_mem_singleton.2 named⟩) violation listed
    · exact unbroken_violationsOfDeclared meaning rest key value each named quiet violation listed
termination_by structural declared => declared

/-- No violation of families of members holds a line break. -/
theorem unbroken_violationsOfFamilies (meaning : AreUnbroken found) :
    ∀ (families : List (Family × Schema)) (key : String) (value : Json),
      (∀ member ∈ families, Text.isUnbroken member.1.source = true) →
        (∀ member ∈ families, member.2.IsUnbroken) → Text.isUnbroken key = true →
          value.hasUnbrokenKeys = true →
            ∀ violation ∈ violationsOfFamilies found families key value, violation.IsUnbroken
  | [], _, _, _, _, _, _, _, listed => nomatch listed
  | (family, schema) :: rest, key, value, sources, each, named, quiet, violation, listed => by
    obtain ⟨source, sources⟩ := List.forall_mem_cons.1 sources
    obtain ⟨whole, each⟩ := List.forall_mem_cons.1 each
    rw [violationsOfFamilies, List.mem_append] at listed
    obtain listed | listed := listed
    · split at listed
      · exact unbroken_under (unbroken_violations meaning schema value whole quiet)
          (List.forall_mem_singleton.2 named)
          (List.forall_mem_cons.2 ⟨rfl, List.forall_mem_singleton.2 source⟩) violation listed
      · cases listed
    · exact unbroken_violationsOfFamilies meaning rest key value sources each named quiet violation
        listed
termination_by structural families => families

end

end Violations

/-- Nothing that is found at the targets of a table holds a line break when no schema of the table
shows one. -/
theorem areUnbroken_violationsAt {table : Table}
    (each : ∀ target schema, table.lookup target = some schema → schema.IsUnbroken) (steps : Nat) :
    AreUnbroken (violationsAt table steps) := by
  induction steps with
  | zero => exact fun _ _ _ _ listed => nomatch listed
  | succ steps ih =>
    intro target value keys violation listed
    rw [violationsAt] at listed
    split at listed
    · rename_i schema found
      exact unbroken_violations ih schema value (each target schema found) keys violation listed
    · cases listed

/-- No schema of a compiled schema shows a line break. -/
structure Compiled.IsUnbroken (compiled : Compiled) : Prop where
  root : compiled.root.IsUnbroken
  table : ∀ target schema, compiled.table.lookup target = some schema → schema.IsUnbroken

/-- No violation of a compiled schema holds a line break when the schema shows none and the keys of
the value hold none. -/
theorem Compiled.IsUnbroken.violations {compiled : Compiled} (unbroken : compiled.IsUnbroken)
    {value : Json} (keys : value.hasUnbrokenKeys = true) :
    ∀ violation ∈ compiled.violations value, violation.IsUnbroken :=
  unbroken_violations (areUnbroken_violationsAt unbroken.table _) compiled.root value unbroken.root
    keys

/-! ### Schemas that are read -/

namespace Keyword

/-- What a keyword says shows no line break. -/
def IsUnbroken : Keyword → Prop
  | parts listed => (Schema.all listed).IsUnbroken
  | properties declared => ∀ member ∈ declared, member.2.IsUnbroken
  | patternProperties families =>
    ∀ member ∈ families, Text.isUnbroken member.1.source = true ∧ member.2.IsUnbroken
  | additionalProperties others | additionalItems others => ∀ schema ∈ others, schema.IsUnbroken
  | tuple positions => ∀ position ∈ positions, position.IsUnbroken
  | test schema | branch _ schema => schema.IsUnbroken

/-- A part behind one step shows no line break when neither does. -/
theorem isUnbroken_part {name : String} {part : Schema} (named : Text.isUnbroken name = true)
    (inside : part.IsUnbroken) : (Schema.all [([name], part)]).IsUnbroken :=
  .all (List.forall_mem_singleton.2 (List.forall_mem_singleton.2 named))
    (List.forall_mem_singleton.2 inside)

/-- A keyword that is one constraint, if its value can be read, shows no line break when neither its
name nor the constraint does. -/
theorem isUnbroken_limitOf {α : Type} {name : String} {value? : Option α} {form : α → Constraint}
    (named : Text.isUnbroken name = true)
    (plain : ∀ value, value? = some value → (form value).isUnbroken = true) :
    (limitOf name (value?.map form)).IsUnbroken := by
  cases value? with
  | none => exact .all nofun nofun
  | some value => exact isUnbroken_part named (.constraint (plain value rfl))

/-- Keys that are asked for are shown without line breaks when the steps to them hold none. -/
theorem isUnbroken_requiring {steps : List String}
    (through : ∀ step ∈ steps, Text.isUnbroken step = true) (names : List Json) :
    (Schema.all (requiring steps names)).IsUnbroken :=
  .all (List.forall_mem_map.2 fun _ _ => through) (List.forall_mem_map.2 fun _ _ => .constraint rfl)

/-- A keyword without schemas shows no line break when its value holds none. -/
theorem isUnbroken_plain {value : Json} (unbroken : value.isUnbroken = true) (name : String) :
    (plain name value).IsUnbroken := by
  have silent : silent.IsUnbroken := .all nofun nofun
  have source (text : String) (written : value.asString? = some text) :
      Text.isUnbroken text = true := by
    cases value with
    | string content => rwa [← Option.some.inj written]
    | null | bool | number | array | object => cases written
  -- Only the source of a pattern is shown as it is.
  unfold plain
  split <;> first
    | exact isUnbroken_limitOf rfl fun _ _ => rfl
    | exact isUnbroken_limitOf rfl source
    | exact isUnbroken_part rfl (.constraint rfl)
    | exact isUnbroken_requiring (List.forall_mem_singleton.2 rfl) _
    | exact silent
    | (split <;> first
        | exact isUnbroken_part rfl (.constraint rfl)
        | exact silent)

/-- What a member of `dependencies` asks for shows no line break when neither its key nor its schema
does. -/
theorem isUnbroken_dependency (dependencies : Json) {key : String} {schema : Schema}
    (named : Text.isUnbroken key = true) (inside : schema.IsUnbroken) :
    (∀ step ∈ (dependency dependencies key schema).1, Text.isUnbroken step = true) ∧
      (dependency dependencies key schema).2.IsUnbroken := by
  rw [dependency]
  split
  · exact ⟨List.forall_mem_singleton.2 rfl,
      .dependent key (isUnbroken_requiring (List.forall_mem_nil _) _)⟩
  · exact ⟨List.forall_mem_cons.2 ⟨rfl, List.forall_mem_singleton.2 named⟩, .dependent key inside⟩

section Together

variable {keywords : List Keyword} (each : ∀ keyword ∈ keywords, keyword.IsUnbroken)
include each

/-- The schemas of declared members show no line break when no keyword does. -/
theorem isUnbroken_declared : ∀ member ∈ declared keywords, member.2.IsUnbroken := by
  intro member listed
  obtain ⟨keyword, present, listed⟩ := List.mem_flatMap.1 listed
  have own := each keyword present
  cases keyword with
  | properties declared => exact own member listed
  | parts | patternProperties | additionalProperties | tuple | additionalItems | test | branch =>
    cases listed

/-- The sources and schemas of families show no line break when no keyword does. -/
theorem isUnbroken_families : ∀ member ∈ families keywords,
    Text.isUnbroken member.1.source = true ∧ member.2.IsUnbroken := by
  intro member listed
  obtain ⟨keyword, present, listed⟩ := List.mem_flatMap.1 listed
  have own := each keyword present
  cases keyword with
  | patternProperties families => exact own member listed
  | parts | properties | additionalProperties | tuple | additionalItems | test | branch =>
    cases listed

/-- What keywords ask for on an outcome shows no line break when no keyword does. -/
theorem isUnbroken_branches (outcome : Bool) : (Schema.all (branches outcome keywords)).IsUnbroken := by
  have part : ∀ part ∈ branches outcome keywords,
      part.1 = [branchStep outcome] ∧ part.2.IsUnbroken := by
    intro part listed
    obtain ⟨keyword, present, listed⟩ := List.mem_flatMap.1 listed
    have own := each keyword present
    cases keyword with
    | branch side schema =>
      dsimp only at listed
      split at listed
      · rename_i same
        obtain rfl := List.mem_singleton.1 listed
        exact ⟨by rw [same], own⟩
      · cases listed
    | parts | properties | patternProperties | additionalProperties | tuple | additionalItems
    | test => cases listed
  refine .all (fun branch listed => ?_) fun branch listed => (part branch listed).2
  rw [(part branch listed).1]
  cases outcome <;> exact List.forall_mem_singleton.2 rfl

/-- The members that keywords declare, with a schema for the others, show no line break. -/
theorem isUnbroken_members {others : Schema} (rest : others.IsUnbroken) :
    (Schema.members (declared keywords) (families keywords) others).IsUnbroken :=
  .members (isUnbroken_declared each)
    (fun member listed => (isUnbroken_families each member listed).1)
    (fun member listed => (isUnbroken_families each member listed).2) rest

/-- What a keyword contributes shows no line break when no keyword does. -/
theorem isUnbroken_contribution {keyword : Keyword} (present : keyword ∈ keywords)
    {part : List String × Schema} (contributes : Contributes keywords keyword part) :
    (∀ step ∈ part.1, Text.isUnbroken step = true) ∧ part.2.IsUnbroken := by
  have own := each keyword present
  cases contributes with
  | part listed =>
    cases own with
    | all steps inside => exact ⟨steps part listed, inside part listed⟩
  | members =>
    exact ⟨List.forall_mem_nil _, .members own (List.forall_mem_nil _) (List.forall_mem_nil _)
      .anything⟩
  | family _ inside =>
    obtain ⟨source, whole⟩ := own _ inside
    exact ⟨List.forall_mem_nil _, .members (List.forall_mem_nil _)
      (List.forall_mem_singleton.2 source) (List.forall_mem_singleton.2 whole) .anything⟩
  | restricting others => exact ⟨List.forall_mem_nil _, isUnbroken_members each (own others rfl)⟩
  | known => exact ⟨List.forall_mem_nil _, isUnbroken_members each .anything⟩
  | closed | empty | full => exact ⟨List.forall_mem_singleton.2 rfl, .constraint rfl⟩
  | positions => exact ⟨List.forall_mem_singleton.2 rfl, .tuple own⟩
  | behind others => exact ⟨List.forall_mem_singleton.2 rfl, .behind _ (own others rfl)⟩
  | choice schema => exact ⟨List.forall_mem_nil _,
      .conditional schema (isUnbroken_branches each true) (isUnbroken_branches each false)⟩

/-- Keywords together show no line break when none of them does. -/
theorem isUnbroken_together : (together keywords).IsUnbroken := by
  have part : ∀ part ∈ keywords.flatMap (contribution keywords),
      (∀ step ∈ part.1, Text.isUnbroken step = true) ∧ part.2.IsUnbroken := by
    intro part listed
    obtain ⟨keyword, present, listed⟩ := List.mem_flatMap.1 listed
    exact isUnbroken_contribution each present (contributes_of_mem listed)
  exact .all (fun _ listed => (part _ listed).1) fun _ listed => (part _ listed).2

end Together

end Keyword

/-- A document is read as schemas that show no line break: as a schema, as a list of schemas and as
an object of schemas. -/
structure ReadsUnbroken (base : Option String) (json : Json) : Prop where
  whole : (read base json).IsUnbroken
  list : ∀ schema ∈ readList base json, schema.IsUnbroken
  map : ∀ member ∈ readMap base json, Text.isUnbroken member.1 = true ∧ member.2.IsUnbroken

/-- A field whose value is read as schemas without line breaks is a keyword that shows none. -/
theorem isUnbroken_keyword {base : Option String} {name : String} {value : Json}
    (unbroken : value.isUnbroken = true) (reads : ReadsUnbroken base value) {keyword : Keyword}
    (single : readKeywords base [(name, value)] = [keyword]) : keyword.IsUnbroken := by
  obtain rfl := List.singleton_inj.1 single
  -- The cases follow the names that reading a keyword tells apart.
  split
  case h_1 =>
    refine .all (fun part listed => ?_) fun part listed => ?_
    · obtain ⟨⟨schema, index⟩, -, rfl⟩ := List.mem_map.1 listed
      exact List.forall_mem_cons.2 ⟨rfl, isUnbroken_indexStep index⟩
    · obtain ⟨⟨schema, index⟩, inside, rfl⟩ := List.mem_map.1 listed
      exact reads.list schema (List.fst_mem_of_mem_zipIdx inside)
  case h_2 => exact Keyword.isUnbroken_part rfl (.any _)
  case h_3 => exact Keyword.isUnbroken_part rfl (.one _)
  case h_4 => exact Keyword.isUnbroken_part rfl (.excluding _ _)
  case h_5 | h_6 | h_7 => exact reads.whole
  case h_8 =>
    split
    · exact reads.list
    · exact Keyword.isUnbroken_part rfl (.items reads.whole)
  case h_9 | h_15 =>
    split
    · intro schema absent
      cases absent
    · rintro schema ⟨⟩
      exact reads.whole
    · exact .all (List.forall_mem_nil _) (List.forall_mem_nil _)
  case h_10 => exact Keyword.isUnbroken_part rfl (.containing _)
  case h_11 =>
    have part (member : String × Schema) (listed : member ∈ readMap base value) :=
      Keyword.isUnbroken_dependency value (reads.map member listed).1 (reads.map member listed).2
    exact .all (List.forall_mem_map.2 fun member listed => (part member listed).1)
      (List.forall_mem_map.2 fun member listed => (part member listed).2)
  case h_12 => exact Keyword.isUnbroken_part rfl (.keys reads.whole)
  case h_13 => exact fun member listed => (reads.map member listed).2
  case h_14 => exact List.forall_mem_map.2 fun member listed => reads.map member listed
  case h_16 => exact Keyword.isUnbroken_plain unbroken name

/-- A document without line breaks is read as schemas that show none. -/
theorem readsUnbroken (base : Option String) {json : Json} (unbroken : json.isUnbroken = true) :
    ReadsUnbroken base json := by
  induction json using Json.induct with
  | null | number value | string text => exact ⟨.anything, nofun, nofun⟩
  | bool value => cases value <;> exact ⟨by constructor, nofun, nofun⟩
  | array items each =>
    have parts := Json.areWorded_iff.1 unbroken
    refine ⟨.anything, ?_, nofun⟩
    rw [readList, readItems_eq_map]
    exact List.forall_mem_map.2 fun item listed => (each item listed (parts item listed)).whole
  | object members each =>
    have parts := Json.areWordedMembers_iff.1 unbroken
    refine ⟨?_, nofun, ?_⟩
    · cases written : (members.lookup "$ref").bind Json.asString? with
      | some text =>
        simp only [read, written]
        exact Keyword.isUnbroken_part rfl (.reference _)
      | none =>
        rw [read_object written]
        refine Keyword.isUnbroken_together fun keyword present => ?_
        obtain ⟨⟨name, value⟩, listed, single⟩ := exists_field present
        have inside := (parts _ listed).2
        exact isUnbroken_keyword inside (each _ listed inside) single
    · rw [readMap, readMembers_eq_map]
      exact List.forall_mem_map.2 fun member listed =>
        ⟨(parts member listed).1, (each member listed (parts member listed).2).whole⟩

/-- A schema that is compiled from documents without line breaks shows none. -/
theorem isUnbroken_compile {documents : Documents} {schema : Json} {compiled : Compiled}
    (served : ∀ address document, documents address = some document → document.isUnbroken = true)
    (unbroken : schema.isUnbroken = true) (done : compile documents schema = .ok compiled) :
    compiled.IsUnbroken := by
  have linked : link documents schema = .ok compiled := by
    rw [compile] at done
    split at done
    · cases done
    · split at done
      · cases done
      · exact done
  obtain ⟨table, gathered, same⟩ := Except.bind_eq_ok.1 linked
  obtain rfl := Except.ok.inj same
  refine ⟨(readsUnbroken none unbroken).whole, fun target found entry => ?_⟩
  have start : Table.Sound documents schema [] := fun _ _ entry => by cases entry
  obtain ⟨json, here, rfl⟩ := sound_gather mostReferences start gathered target found entry
  obtain ⟨document, held, place⟩ := Option.bind_eq_some_iff.1 here
  have whole : document.isUnbroken = true := by
    rcases documentOf_cases held with ⟨-, rfl⟩ | ⟨-, rfl⟩ | ⟨address, -, here⟩
    · exact unbroken
    · decide +kernel
    · exact served address document here
  exact (readsUnbroken _ ((Json.isInherited_isWorded _ _).atPlace? whole place)).whole

end GatewayCheck.Schema
