import GatewayCheck.Proofs.Schema.Closing

/-!
Schemas field by field. The base of a schema matters only for its references, and a schema that
leaves other members alone accepts what each of its fields accepts by itself.
-/
namespace GatewayCheck.Schema

/-! ### The base -/

section Base

variable {first second : Option String}

/-- References lead to the same targets from two bases. -/
def SameTargets (first second : Option String) (references : List String) : Prop :=
  ∀ reference ∈ references,
    Target.ofReference first reference = Target.ofReference second reference

/-- Two lists of references lead to the same targets exactly when both do. -/
theorem sameTargets_append {before after : List String} :
    SameTargets first second (before ++ after) ↔
      SameTargets first second before ∧ SameTargets first second after :=
  List.forall_mem_append

/-- One keyword is the same from two bases if what stands in its value is. -/
theorem keyword_congr {name : String} {value : Json}
    (whole : SameTargets first second value.references → read first value = read second value)
    (list : SameTargets first second value.references →
      readList first value = readList second value)
    (map : SameTargets first second value.referencesInMap →
      readMap first value = readMap second value)
    (same : SameTargets first second (if Json.schemaKeywords.contains name then value.references
      else if Json.schemaMapKeywords.contains name then value.referencesInMap else [])) :
    readKeywords first [(name, value)] = readKeywords second [(name, value)] := by
  simp only [readKeywords]
  -- The cases follow the names that reading a keyword tells apart.
  split
  case h_1 | h_2 | h_3 =>
    rw [if_pos (by decide)] at same
    rw [list same]
  case h_8 =>
    rw [if_pos (by decide)] at same
    rw [list same, whole same]
  case h_11 | h_13 | h_14 =>
    rw [if_neg (by decide), if_pos (by decide)] at same
    rw [map same]
  case h_16 => rfl
  all_goals
    rw [if_pos (by decide)] at same
    rw [whole same]

mutual

/-- A schema is the same from two bases if its references lead to the same targets. -/
theorem read_congr : ∀ json : Json, SameTargets first second json.references →
    read first json = read second json
  | .null, _ | .bool true, _ | .bool false, _ | .number _, _ | .string _, _ | .array _, _ => by
    simp only [read]
  | .object fields, same => by
    rw [Json.references, sameTargets_append] at same
    cases written : (fields.lookup "$ref").bind Json.asString? with
    | some text =>
      have listed : text ∈ ((Json.object fields).get? "$ref").toList.filterMap Json.asString? := by
        obtain ⟨content, found, text⟩ := Option.bind_eq_some_iff.1 written
        simp [Json.get?, Json.members, found, text]
      simp only [read, written, same.1 text listed]
    | none => rw [read_object written, read_object written, readKeywords_congr fields same.2]
termination_by structural json => json

/-- Keywords are the same from two bases if their references lead to the same targets. -/
theorem readKeywords_congr : ∀ fields : List (String × Json),
    SameTargets first second (Json.referencesInKeywords fields) →
      readKeywords first fields = readKeywords second fields
  | [], _ => by simp only [readKeywords]
  | (name, value) :: rest, same => by
    rw [Json.referencesInKeywords, sameTargets_append] at same
    rw [readKeywords_cons first, readKeywords_cons second, readKeywords_congr rest same.2,
      keyword_congr (read_congr value) (readList_congr value) (readMap_congr value) same.1]
termination_by structural fields => fields

/-- Lists of schemas are the same from two bases if their references lead to the same targets. -/
theorem readList_congr : ∀ json : Json, SameTargets first second json.references →
    readList first json = readList second json
  | .null, _ | .bool _, _ | .number _, _ | .string _, _ | .object _, _ => by simp only [readList]
  | .array elements, same => readItems_congr elements same
termination_by structural json => json

/-- Schemas in a list are the same from two bases if their references lead to the same targets. -/
theorem readItems_congr : ∀ elements : List Json,
    SameTargets first second (Json.referencesInItems elements) →
      readItems first elements = readItems second elements
  | [], _ => by simp only [readItems]
  | item :: rest, same => by
    rw [Json.referencesInItems, sameTargets_append] at same
    rw [readItems, readItems, read_congr item same.1, readItems_congr rest same.2]
termination_by structural elements => elements

/-- Objects of schemas are the same from two bases if their references lead to the same targets. -/
theorem readMap_congr : ∀ json : Json, SameTargets first second json.referencesInMap →
    readMap first json = readMap second json
  | .null, _ | .bool _, _ | .number _, _ | .string _, _ | .array _, _ => by simp only [readMap]
  | .object fields, same => readMembers_congr fields same
termination_by structural json => json

/-- Named schemas are the same from two bases if their references lead to the same targets. -/
theorem readMembers_congr : ∀ fields : List (String × Json),
    SameTargets first second (Json.referencesInValues fields) →
      readMembers first fields = readMembers second fields
  | [], _ => by simp only [readMembers]
  | (_, value) :: rest, same => by
    rw [Json.referencesInValues, sameTargets_append] at same
    rw [readMembers, readMembers, read_congr value same.1, readMembers_congr rest same.2]
termination_by structural fields => fields

end

end Base

/-! ### Fields -/

section Fields

variable {base : Option String} {fields : List (String × Json)} {meaning : Target → Json → Bool}
  {value : Json}

/-- What the keyword says depends on the keywords beside it. -/
def Keyword.isDependent : Keyword → Bool
  | additionalProperties _ | additionalItems _ | test _ => true
  | _ => false

/-- Only three names are read as keywords that depend on others. -/
theorem name_of_isDependent {name : String} {content : Json} {keyword : Keyword}
    (single : readKeywords base [(name, content)] = [keyword])
    (dependent : keyword.isDependent = true) :
    name = "additionalProperties" ∨ name = "additionalItems" ∨ name = "if" := by
  simp only [readKeywords, List.cons.injEq, and_true] at single
  subst single
  split at dependent
  case h_5 => exact .inr (.inr rfl)
  case h_9 => exact .inr (.inl rfl)
  case h_15 => exact .inl rfl
  case h_16 =>
    obtain ⟨listed, same, -⟩ := plain_eq_parts name content
    rw [same] at dependent
    cases dependent
  all_goals first
    | cases dependent
    | (split at dependent <;> cases dependent)

/-- The keyword of every field says the same beside any others. -/
structure AreSeparate (fields : List (String × Json)) : Prop where
  plain : fields.lookup "$ref" = none
  unrestricted : fields.lookup "additionalProperties" = none
  unlisted : fields.lookup "additionalItems" = none
  untested : fields.lookup "if" = none

/-- Among the keywords of separate fields, a keyword contributes what it contributes alone. -/
theorem AreSeparate.contribution (separate : AreSeparate fields) {keyword : Keyword}
    (present : keyword ∈ readKeywords base fields) :
    keyword.contribution (readKeywords base fields) = keyword.contribution [keyword] := by
  have free : (readKeywords base fields).any Keyword.restrictsOthers = false :=
    List.any_eq_false.2 fun other listed => by
      simp [restrictsOthers_readKeywords separate.unrestricted other listed]
  have independent : keyword.isDependent = false := by
    obtain ⟨⟨name, content⟩, listed, single⟩ := exists_field present
    refine Bool.eq_false_iff.2 fun dependent => ?_
    have absent {other : String} (none : fields.lookup other = none) : name ≠ other := fun same => by
      simpa [same] using List.lookup_eq_none_iff.1 none _ listed
    rcases name_of_isDependent single dependent with same | same | same
    · exact absent separate.unrestricted same
    · exact absent separate.unlisted same
    · exact absent separate.untested same
  cases keyword with
  | parts | tuple | branch => rfl
  | properties declared =>
    simp [Keyword.contribution, free, Keyword.restrictsOthers]
  | patternProperties families =>
    simp [Keyword.contribution, free, Keyword.restrictsOthers]
  | additionalProperties | additionalItems | test => cases independent

/-- A schema with separate fields accepts what each of its fields accepts alone. -/
theorem accepts_fields_iff (separate : AreSeparate fields) :
    (read base (.object fields)).accepts meaning value = true ↔
      ∀ field ∈ fields, (read base (.object [field])).accepts meaning value = true := by
  have unreferring : (fields.lookup "$ref").bind Json.asString? = none := by
    rw [separate.plain]
    rfl
  have alone {field : String × Json} (listed : field ∈ fields) :
      ([field].lookup "$ref").bind Json.asString? = none := by
    have different := List.lookup_eq_none_iff.1 separate.plain field listed
    have absent : [field].lookup "$ref" = none :=
      List.lookup_eq_none_iff.2 fun other single => List.mem_singleton.1 single ▸ different
    rw [absent]
    rfl
  have single {keyword : Keyword} (present : keyword ∈ readKeywords base fields) :
      (Keyword.together [keyword]).accepts meaning value = true ↔
        ∀ part ∈ keyword.contribution (readKeywords base fields),
          part.2.accepts meaning value = true := by
    rw [accepts_together_iff, List.forall_mem_singleton, separate.contribution present]
  rw [read_object unreferring, accepts_together_iff]
  constructor
  · intro each field listed
    obtain ⟨keyword, own, -⟩ := readKeywords_single base field.1 field.2
    obtain ⟨before, after, rfl⟩ := List.append_of_mem listed
    have present : keyword ∈ readKeywords base (before ++ field :: after) := by
      rw [readKeywords_append, readKeywords_cons, own]
      simp
    rw [read_object (alone listed), own]
    exact (single present).2 (each keyword present)
  · intro each keyword present
    obtain ⟨field, listed, own⟩ := exists_field present
    have accepted := each field listed
    rw [read_object (alone listed), own] at accepted
    exact (single present).1 accepted

/-- Declared properties accept a value when every member of the value is accepted by the schema
that is declared for its key. -/
theorem accepts_properties_iff {properties : List (String × Json)} :
    (read base (.object [("properties", .object properties)])).accepts meaning value = true ↔
      ∀ member ∈ value.members, ∀ schema, properties.lookup member.1 = some schema →
        (read base schema).accepts meaning member.2 = true := by
  have single : readKeywords base [("properties", .object properties)] =
      [.properties (readMembers base properties)] := by
    simp only [readKeywords, readMap]
  have part : Keyword.contribution [.properties (readMembers base properties)]
      (.properties (readMembers base properties)) =
        [([], .members (readMembers base properties) [] .anything)] := rfl
  rw [accepts_read_iff rfl, single, List.forall_mem_singleton, part, List.forall_mem_singleton,
    accepts_members_iff]
  refine forall₂_congr fun member _ => ?_
  rw [acceptsDeclared_eq, lookup_readMembers]
  cases properties.lookup member.1 <;> simp [acceptsFamilies]

/-- A pattern accepts the texts in which it is found. -/
theorem accepts_pattern_iff {source text : String} :
    (read base (.object [("pattern", .string source)])).accepts meaning (.string text) = true ↔
      (Keyword.familyOf source).pattern.isFoundIn text = true := by
  have single : readKeywords base [("pattern", .string source)] =
      [Keyword.limit "pattern" (.pattern (Keyword.familyOf source))] := rfl
  rw [accepts_read_iff rfl, single, List.forall_mem_singleton]
  exact List.forall_mem_singleton

/-- A required key accepts the objects that have it. -/
theorem accepts_required_iff {name : String} {members : List (String × Json)} :
    (read base (.object [("required", .texts [name])])).accepts meaning (.object members) = true ↔
      (members.lookup name).isSome = true := by
  have single : readKeywords base [("required", .texts [name])] =
      [Keyword.limit "required" (.required name)] := rfl
  rw [accepts_read_iff rfl, single, List.forall_mem_singleton]
  exact List.forall_mem_singleton

/-- Alternatives accept a value when one of them does. -/
theorem accepts_anyOf_iff {alternatives : List Json} :
    (read base (.object [("anyOf", .array alternatives)])).accepts meaning value = true ↔
      ∃ alternative ∈ alternatives, (read base alternative).accepts meaning value = true := by
  have single : readKeywords base [("anyOf", .array alternatives)] =
      [.parts [(["anyOf"], .any (readItems base alternatives))]] := by
    simp only [readKeywords, readList]
  rw [accepts_read_iff rfl, single, List.forall_mem_singleton, Keyword.contribution,
    List.forall_mem_singleton, accepts, acceptsSome_eq_any, readItems_eq_map]
  simp

/-- A schema for items accepts a value when it accepts every item. -/
theorem accepts_items_iff {each : List (String × Json)} :
    (read base (.object [("items", .object each)])).accepts meaning value = true ↔
      ∀ item ∈ value.items, (read base (.object each)).accepts meaning item = true := by
  have single : readKeywords base [("items", .object each)] =
      [.parts [(["items"], .items (read base (.object each)))]] := by
    simp only [readKeywords]
  rw [accepts_read_iff rfl, single, List.forall_mem_singleton, Keyword.contribution,
    List.forall_mem_singleton, accepts, List.all_eq_true]

end Fields

end GatewayCheck.Schema
