import GatewayCheck.Proofs.Json.Ways
import GatewayCheck.Proofs.Schema.Closing
import GatewayCheck.Proofs.Schema.Reach

/-!
Closed schemas and their references. Closing changes one member at the root of a schema, so the same
targets are reached from the closed schema as from the open one, and behind each of them stands the
same schema, except where a reference leads back to the root itself. There the closed schema refuses
undeclared keys at every depth at which the reference is followed.
-/
namespace GatewayCheck

open Schema

namespace Json

/-- A place below the root is found in every object that has the same members, and more. -/
theorem atPlace?_of_lookup {fields others : List (String × Json)} {place : String} {value : Json}
    (kept : ∀ key item, fields.lookup key = some item → others.lookup key = some item)
    (below : place ≠ "") (found : (Json.object fields).atPlace? place = some value) :
    (Json.object others).atPlace? place = some value := by
  rw [atPlace?] at found ⊢
  cases characters : place.toList with
  | nil => exact absurd (String.toList_eq_nil_iff.1 characters) below
  | cons mark pointer =>
    rw [characters] at found
    by_cases slash : mark = '/'
    · subst slash
      obtain ⟨decoded, bytes, found⟩ := Option.bind_eq_some_iff.1 found
      obtain ⟨first, rest, split⟩ := List.exists_cons_of_ne_nil (Text.pieces_ne_nil '/' decoded)
      refine Option.bind_eq_some_iff.2 ⟨decoded, bytes, ?_⟩
      rw [split, List.foldlM_cons] at found ⊢
      obtain ⟨item, step, later⟩ := Option.bind_eq_some_iff.1 found
      exact Option.bind_eq_some_iff.2 ⟨item, kept _ _ step, later⟩
    · split at found
      · cases ‹_ :: _ = []›
      · rename_i same
        exact absurd (List.cons.inj same).1 slash
      · cases found

end Json

namespace Schema

/-- The target of a reference from a schema to itself. -/
def Target.root : Target := ⟨none, ""⟩

/-! ### Targets of a closed schema -/

section Together

variable {keywords : List Keyword} {target : Target}

/-- Keywords together have the targets of what each of them contributes. -/
theorem mem_targets_of_contributes {keyword : Keyword} {part : List String × Schema}
    (present : keyword ∈ keywords) (contributes : Keyword.Contributes keywords keyword part)
    (inside : target ∈ part.2.targets) : target ∈ (Keyword.together keywords).targets :=
  mem_targetsOfParts.2 ⟨part, List.mem_flatMap.2 ⟨keyword, present, contributes.mem⟩, inside⟩

/-- A keyword that restricts the others gathers what all keywords declare. -/
theorem mem_targets_of_restricted (restricted : keywords.any Keyword.restrictsOthers = true)
    (declares : keywords.any Keyword.declares = true)
    (listed : target ∈ targetsOfDeclared (Keyword.declared keywords) ∨
      target ∈ targetsOfFamilies (Keyword.families keywords)) :
    target ∈ (Keyword.together keywords).targets := by
  obtain ⟨keyword, present, _, contributes⟩ :=
    Keyword.exists_contributes_of_restricted restricted declares
  exact mem_targets_of_contributes present contributes
    (List.mem_append_left _ (List.mem_append.2 listed))

/-- The targets of declared members are there, whichever keyword gathers them. -/
theorem mem_targets_of_declared
    (inside : target ∈ targetsOfDeclared (Keyword.declared keywords)) :
    target ∈ (Keyword.together keywords).targets := by
  obtain ⟨member, listed, here⟩ := mem_targetsOfDeclared.1 inside
  obtain ⟨keyword, present, listed⟩ := List.mem_flatMap.1 listed
  cases keyword with
  | properties named =>
    by_cases restricted : keywords.any Keyword.restrictsOthers = true
    · exact mem_targets_of_restricted restricted (List.any_eq_true.2 ⟨_, present, rfl⟩) (.inl inside)
    · exact mem_targets_of_contributes present (.members restricted)
        (List.mem_append_left _ (List.mem_append_left _
          (mem_targetsOfDeclared.2 ⟨member, listed, here⟩)))
  | parts | patternProperties | additionalProperties | tuple | additionalItems | test | branch =>
    cases listed

/-- The targets of families of members are there, whichever keyword gathers them. -/
theorem mem_targets_of_families
    (inside : target ∈ targetsOfFamilies (Keyword.families keywords)) :
    target ∈ (Keyword.together keywords).targets := by
  obtain ⟨family, listed, here⟩ := mem_targetsOfFamilies.1 inside
  obtain ⟨keyword, present, listed⟩ := List.mem_flatMap.1 listed
  cases keyword with
  | patternProperties grouped =>
    by_cases restricted : keywords.any Keyword.restrictsOthers = true
    · exact mem_targets_of_restricted restricted (List.any_eq_true.2 ⟨_, present, rfl⟩) (.inr inside)
    · refine mem_targets_of_contributes present (.family restricted listed) ?_
      simpa [targets, targetsOfDeclared, targetsOfFamilies] using here
  | parts | properties | additionalProperties | tuple | additionalItems | test | branch =>
    cases listed

/-- Keywords together have the targets of the keywords that are not about members, of what is
declared, and of what is asked of all other members. -/
theorem mem_targets_together :
    target ∈ (Keyword.together keywords).targets ↔
      (∃ keyword ∈ keywords, keyword.isOnMembers = false ∧
        ∃ part ∈ keyword.contribution keywords, target ∈ part.2.targets) ∨
      target ∈ targetsOfDeclared (Keyword.declared keywords) ∨
      target ∈ targetsOfFamilies (Keyword.families keywords) ∨
      ∃ others, Keyword.additionalProperties (some others) ∈ keywords ∧
        target ∈ others.targets := by
  constructor
  · intro inside
    obtain ⟨part, listed, inside⟩ := mem_targetsOfParts.1 inside
    obtain ⟨keyword, present, listed⟩ := List.mem_flatMap.1 listed
    by_cases off : keyword.isOnMembers = false
    · exact .inl ⟨keyword, present, off, part, listed, inside⟩
    · right
      cases Keyword.contributes_of_mem listed with
      | members =>
        simp only [targets, targetsOfFamilies, List.append_nil] at inside
        obtain ⟨member, declares, inside⟩ := mem_targetsOfDeclared.1 inside
        exact .inl (mem_targetsOfDeclared.2
          ⟨member, List.mem_flatMap.2 ⟨_, present, declares⟩, inside⟩)
      | @family _ family _ declares =>
        simp only [targets, targetsOfDeclared, targetsOfFamilies, List.append_nil,
          List.nil_append] at inside
        exact .inr (.inl (mem_targetsOfFamilies.2
          ⟨family, List.mem_flatMap.2 ⟨_, present, declares⟩, inside⟩))
      | restricting others =>
        simp only [targets, List.mem_append] at inside
        rcases inside with (inside | inside) | inside
        · exact .inl inside
        · exact .inr (.inl inside)
        · exact .inr (.inr ⟨others, present, inside⟩)
      | known =>
        simp only [targets, List.append_nil, List.mem_append] at inside
        exact inside.imp_right .inl
      | closed | empty => cases inside
      | part | positions | behind | full | choice => exact absurd rfl off
  · rintro (⟨keyword, present, -, part, listed, inside⟩ | inside | inside | ⟨_, present, inside⟩)
    · exact mem_targets_of_contributes present (Keyword.contributes_of_mem listed) inside
    · exact mem_targets_of_declared inside
    · exact mem_targets_of_families inside
    · exact mem_targets_of_contributes present (.restricting _) (List.mem_append_right _ inside)

end Together

/-- A refusal of the other members adds no target. -/
theorem mem_targets_insert {first second : List Keyword} {target : Target} :
    target ∈ (Keyword.together (first ++ .additionalProperties none :: second)).targets ↔
      target ∈ (Keyword.together (first ++ second)).targets := by
  have others (keyword : Keyword) : keyword ∈ first ++ .additionalProperties none :: second ↔
      keyword = .additionalProperties none ∨ keyword ∈ first ++ second := by
    simp only [List.mem_append, List.mem_cons]
    exact or_left_comm
  have apart : (∃ keyword ∈ first ++ .additionalProperties none :: second,
      keyword.isOnMembers = false ∧ ∃ part ∈ keyword.contribution
        (first ++ .additionalProperties none :: second), target ∈ part.2.targets) ↔
      ∃ keyword ∈ first ++ second, keyword.isOnMembers = false ∧
        ∃ part ∈ keyword.contribution (first ++ second), target ∈ part.2.targets := by
    constructor
    · rintro ⟨keyword, present, off, inside⟩
      rw [Keyword.contribution_insert off] at inside
      rcases (others keyword).1 present with rfl | present
      · cases off
      · exact ⟨keyword, present, off, inside⟩
    · rintro ⟨keyword, present, off, inside⟩
      rw [← Keyword.contribution_insert off none] at inside
      exact ⟨keyword, (others keyword).2 (.inr present), off, inside⟩
  rw [mem_targets_together, mem_targets_together, apart, Keyword.declared_insert,
    Keyword.families_insert]
  simp

section Closed

variable {base : Option String} {before after : List (String × Json)}

/-- The refusal of other members hides no keyword. -/
theorem lookup_refusing {key : String} (other : key ≠ "additionalProperties") :
    (before ++ ("additionalProperties", .bool false) :: after).lookup key =
      (before ++ after).lookup key := by
  have unseen : (key == "additionalProperties") = false := by simpa using other
  simp only [List.lookup_append, List.lookup_cons, unseen]

/-- A schema without `$ref` is the keywords of its members together, and one with it is its
target; in both cases the refusal of other members adds no target. -/
theorem mem_targets_refusing {target : Target} :
    target ∈ (read base
        (.object (before ++ ("additionalProperties", .bool false) :: after))).targets ↔
      target ∈ (read base (.object (before ++ after))).targets := by
  have same := @lookup_refusing before after "$ref" (by decide)
  cases written : ((before ++ after).lookup "$ref").bind Json.asString? with
  | some text => simp only [read, same, written]
  | none =>
    have closed : readKeywords base (before ++ ("additionalProperties", .bool false) :: after) =
        readKeywords base before ++ .additionalProperties none :: readKeywords base after := by
      rw [readKeywords_append]
      rfl
    rw [read_object written, read_object (by rw [same, written]), closed, readKeywords_append]
    exact mem_targets_insert

/-- A closed schema has the targets of the open one. -/
theorem mem_targets_close (sink : Sink) {schema : Json} {target : Target} :
    target ∈ (read base (sink.close schema)).targets ↔ target ∈ (read base schema).targets := by
  cases schema with
  | object fields =>
    rcases sink.close_cases fields with same | ⟨-, -, -, before, after, rfl, closed⟩
    · rw [same]
    · rw [closed, mem_targets_refusing]
  | null | bool | number | string | array => rfl

end Closed

/-! ### What is reached -/

section Reach

variable {documents : Documents} {schema json : Json} {target : Target}

/-- The root of a schema is the schema itself. -/
theorem resolved?_root : resolved? documents schema Target.root = some schema := rfl

/-- Away from the root, what is found from the open schema is found from the closed one. -/
theorem resolved?_close (sink : Sink) (away : target ≠ Target.root)
    (here : resolved? documents schema target = some json) :
    resolved? documents (sink.close schema) target = some json := by
  obtain ⟨document?, place⟩ := target
  cases document? with
  | some address => exact here
  | none =>
    have below : place ≠ "" := fun empty => away (by rw [empty, Target.root])
    cases schema with
    | object fields =>
      rcases sink.close_cases fields with same | ⟨-, -, absent, before, after, rfl, closed⟩
      · rwa [same]
      · rw [closed]
        refine Json.atPlace?_of_lookup (fun key item found => ?_) below here
        rw [lookup_refusing, found]
        rintro rfl
        rw [absent] at found
        cases found
    | null | bool | number | string | array => exact here

/-- The same targets are reached from the closed schema as from the open one. -/
theorem reached_close (sink : Sink)
    (resolves : ∀ target, Reached documents schema (read none schema).targets target →
      ∃ json, resolved? documents schema target = some json) :
    Reached documents (sink.close schema) (read none (sink.close schema)).targets target ↔
      Reached documents schema (read none schema).targets target := by
  constructor
  · intro reached
    induction reached with
    | start listed => exact .start ((mem_targets_close sink).1 listed)
    | @step target next json before here listed ih =>
      obtain ⟨found, there⟩ := resolves target ih
      refine .step ih there ?_
      by_cases root : target = Target.root
      · subst root
        obtain rfl := Option.some.inj here
        obtain rfl := Option.some.inj there
        exact (mem_targets_close sink).1 listed
      · obtain rfl := Option.some.inj (here.symm.trans (resolved?_close sink root there))
        exact listed
  · intro reached
    induction reached with
    | start listed => exact .start ((mem_targets_close sink).2 listed)
    | @step target next json before here listed ih =>
      by_cases root : target = Target.root
      · subst root
        obtain rfl := Option.some.inj here
        exact .step ih resolved?_root ((mem_targets_close sink).2 listed)
      · exact .step ih (resolved?_close sink root here) listed

end Reach

/-! ### What is accepted -/

section Acceptance

variable {base : Option String} {documents : Documents} {schema value : Json}

/-- A value whose keys are all declared has none that a closed schema refuses. -/
theorem closed_holds {families : List Family} {properties : Json}
    (declares : ∀ member ∈ value.members, (properties.get? member.1).isSome) :
    (Constraint.closed ((readMap base properties).map Prod.fst) families).holds value = true := by
  have keys : (readMap base properties).map Prod.fst = properties.members.map Prod.fst := by
    cases properties with
    | object fields => exact keys_readMembers base fields
    | null | bool | number | string | array => rfl
  cases value with
  | object members =>
    rw [keys, Constraint.holds, Constraint.undeclared, List.isEmpty_iff, List.filter_eq_nil_iff]
    intro key listed
    obtain ⟨member, own, rfl⟩ := List.mem_map.1 listed
    have declared := Json.get?_isSome_iff.1 (declares member own)
    simp only [Constraint.isDeclared, List.contains_iff_mem.2 declared]
    simp
  | null | bool | number | string | array => rfl

/-- Of a value whose keys are all declared, a closed schema says what the open one says. -/
theorem accepts_close_of_declares (sink : Sink) {meaning : Target → Json → Bool}
    (once : (schema.members.map Prod.fst).Nodup) (declares : DeclaresKeys schema value) :
    (read base (sink.close schema)).accepts meaning value =
      (read base schema).accepts meaning value := by
  cases schema with
  | object fields =>
    rcases sink.close_cases fields with same | ⟨-, present, absent, before, after, rfl, closed⟩
    · rw [same]
    · rw [closed]
      obtain ⟨properties, found⟩ := Option.isSome_iff_exists.1 present
      have holds := @closed_holds base value
        ((Keyword.families (readKeywords base (before ++ after))).map Prod.fst) properties
        (declares properties found)
      have same := @lookup_refusing before after "$ref" (by decide)
      cases written : ((before ++ after).lookup "$ref").bind Json.asString? with
      | some text => simp only [read, same, written]
      | none =>
        rw [Bool.eq_iff_iff, accepts_refusing written once found absent, and_iff_left holds]
  | null | bool | number | string | array => rfl

/-- The tables of a closed schema and of the open one say the same of a class of values, if every
value of the class has all its keys declared or no reference leads back to the root. -/
theorem acceptsAt_close (sink : Sink) {closed plain : Table} {within : Json → Prop}
    (once : (schema.members.map Prod.fst).Nodup)
    (strict : closed.Follows documents (sink.close schema)
      (read none (sink.close schema)).targets [])
    (lenient : plain.Follows documents schema (read none schema).targets [])
    (hereditary : IsHereditary within)
    (declares : Reached documents schema (read none schema).targets Target.root →
      ∀ value, within value → DeclaresKeys schema value)
    (steps : Nat) {target : Target}
    (reached : Reached documents schema (read none schema).targets target)
    (inside : within value) :
    acceptsAt closed steps target value = acceptsAt plain steps target value := by
  have resolves (other : Target)
      (reached : Reached documents schema (read none schema).targets other) :
      ∃ json, resolved? documents schema other = some json :=
    (lenient.resolves reached).imp fun _ found => found.1
  induction steps generalizing target value with
  | zero => rfl
  | succ steps ih =>
    obtain ⟨json, here, entry⟩ := lenient.resolves reached
    obtain ⟨other, there, closedEntry⟩ := strict.resolves ((reached_close sink resolves).2 reached)
    have beyond : (read target.document json).accepts (acceptsAt closed steps) value =
        (read target.document json).accepts (acceptsAt plain steps) value :=
      accepts_congr_within hereditary _ value inside fun next listed value inside =>
        ih (.step reached here listed) inside
    simp only [acceptsAt, entry, closedEntry]
    rw [← beyond]
    by_cases root : target = Target.root
    · subst root
      obtain rfl := Option.some.inj here
      obtain rfl := Option.some.inj there
      exact accepts_close_of_declares sink once (declares reached value inside)
    · obtain rfl := Option.some.inj (there.symm.trans (resolved?_close sink root here))
      rfl

/-- A compiled schema that is closed accepts what the open one accepts among the values whose keys
are declared wherever the closed root is met: at the top, and at every value of a class that holds
their parts if a reference leads back to the root. -/
theorem compiled_accepts_close (sink : Sink) {closed plain : Compiled} {within : Json → Prop}
    (once : (schema.members.map Prod.fst).Nodup)
    (strict : compile documents (sink.close schema) = .ok closed)
    (lenient : compile documents schema = .ok plain)
    (hereditary : IsHereditary within)
    (declares : Reached documents schema (read none schema).targets Target.root →
      ∀ value, within value → DeclaresKeys schema value)
    (inside : within value) (top : DeclaresKeys schema value) :
    closed.accepts value = plain.accepts value := by
  obtain ⟨closedRoot, strict⟩ := follows_of_compile strict
  obtain ⟨plainRoot, lenient⟩ := follows_of_compile lenient
  have size : closed.table.length = plain.table.length :=
    strict.length_eq lenient fun target => reached_close sink
      fun target reached => (lenient.resolves reached).imp fun _ found => found.1
  have steps : closed.stepsFor value = plain.stepsFor value := by
    rw [Compiled.stepsFor, Compiled.stepsFor, size]
  rw [Compiled.accepts, Compiled.accepts, closedRoot, plainRoot, steps,
    accepts_close_of_declares sink once top]
  exact accepts_congr_within hereditary _ value inside fun target listed value inside =>
    acceptsAt_close sink once strict lenient hereditary declares _ (.start listed) inside

end Acceptance

end Schema

end GatewayCheck
