import GatewayCheck.Proofs.Schema.Reading

/-!
Targets of schemas. Every target of a schema stands for a reference that is written in its document,
so what a document refers to bounds what its schema can reach.
-/
namespace GatewayCheck.Schema

/-- The targets in what a keyword says. -/
def Keyword.targets : Keyword → List Target
  | parts listed => targetsOfParts listed
  | properties declared => targetsOfDeclared declared
  | patternProperties families => targetsOfFamilies families
  | additionalProperties (some others) | additionalItems (some others) => others.targets
  | additionalProperties none | additionalItems none => []
  | tuple positions => targetsOfList positions
  | test schema | branch _ schema => schema.targets

/-- The targets of parts are those of each part. -/
theorem mem_targetsOfParts {parts : List (List String × Schema)} {target : Target} :
    target ∈ targetsOfParts parts ↔ ∃ part ∈ parts, target ∈ part.2.targets := by
  induction parts with
  | nil => simp [targetsOfParts]
  | cons part rest ih => simp [targetsOfParts, ih]

/-- The targets of declared members are those of each schema. -/
theorem mem_targetsOfDeclared {declared : List (String × Schema)} {target : Target} :
    target ∈ targetsOfDeclared declared ↔ ∃ member ∈ declared, target ∈ member.2.targets := by
  induction declared with
  | nil => simp [targetsOfDeclared]
  | cons member rest ih => simp [targetsOfDeclared, ih]

/-- The targets of families of members are those of each schema. -/
theorem mem_targetsOfFamilies {families : List (Family × Schema)} {target : Target} :
    target ∈ targetsOfFamilies families ↔ ∃ member ∈ families, target ∈ member.2.targets := by
  induction families with
  | nil => simp [targetsOfFamilies]
  | cons member rest ih => simp [targetsOfFamilies, ih]

section Keywords

variable {keywords : List Keyword} {target : Target}

/-- A target of the members that keywords declare is a target of one of the keywords. -/
theorem exists_keyword_declared
    (inside : target ∈ targetsOfDeclared (Keyword.declared keywords)) :
    ∃ keyword ∈ keywords, target ∈ keyword.targets := by
  obtain ⟨member, listed, inside⟩ := mem_targetsOfDeclared.1 inside
  obtain ⟨keyword, present, listed⟩ := List.mem_flatMap.1 listed
  refine ⟨keyword, present, ?_⟩
  cases keyword with
  | properties declared => exact mem_targetsOfDeclared.2 ⟨member, listed, inside⟩
  | parts | patternProperties | additionalProperties | tuple | additionalItems | test | branch =>
    cases listed

/-- A target of the families that keywords declare is a target of one of the keywords. -/
theorem exists_keyword_families
    (inside : target ∈ targetsOfFamilies (Keyword.families keywords)) :
    ∃ keyword ∈ keywords, target ∈ keyword.targets := by
  obtain ⟨member, listed, inside⟩ := mem_targetsOfFamilies.1 inside
  obtain ⟨keyword, present, listed⟩ := List.mem_flatMap.1 listed
  refine ⟨keyword, present, ?_⟩
  cases keyword with
  | patternProperties families => exact mem_targetsOfFamilies.2 ⟨member, listed, inside⟩
  | parts | properties | additionalProperties | tuple | additionalItems | test | branch =>
    cases listed

/-- A target of what keywords ask for on an outcome is a target of one of the keywords. -/
theorem exists_keyword_branches {outcome : Bool}
    (inside : target ∈ targetsOfParts (Keyword.branches outcome keywords)) :
    ∃ keyword ∈ keywords, target ∈ keyword.targets := by
  obtain ⟨part, listed, inside⟩ := mem_targetsOfParts.1 inside
  obtain ⟨keyword, present, listed⟩ := List.mem_flatMap.1 listed
  refine ⟨keyword, present, ?_⟩
  cases keyword with
  | branch side schema =>
    dsimp only at listed
    split at listed
    · obtain rfl := List.mem_singleton.1 listed
      exact inside
    · cases listed
  | parts | properties | patternProperties | additionalProperties | tuple | additionalItems
  | test => cases listed

/-- What a keyword contributes to a schema has its targets from one of the keywords beside it. -/
theorem exists_keyword_contributes {keyword : Keyword} (present : keyword ∈ keywords)
    {part : List String × Schema} (contributes : Keyword.Contributes keywords keyword part)
    (inside : target ∈ part.2.targets) : ∃ other ∈ keywords, target ∈ other.targets := by
  cases contributes with
  | part listed => exact ⟨_, present, mem_targetsOfParts.2 ⟨part, listed, inside⟩⟩
  | members =>
    refine ⟨_, present, ?_⟩
    simpa [Keyword.targets, targets, targetsOfFamilies] using inside
  | @family _ family _ member =>
    refine ⟨_, present, mem_targetsOfFamilies.2 ⟨family, member, ?_⟩⟩
    simpa [targets, targetsOfDeclared, targetsOfFamilies] using inside
  | restricting others =>
    simp only [targets, List.mem_append] at inside
    rcases inside with (inside | inside) | inside
    · exact exists_keyword_declared inside
    · exact exists_keyword_families inside
    · exact ⟨_, present, inside⟩
  | known =>
    simp only [targets, List.append_nil, List.mem_append] at inside
    exact inside.elim exists_keyword_declared exists_keyword_families
  | closed | empty | full => cases inside
  | positions | behind => exact ⟨_, present, inside⟩
  | choice schema =>
    simp only [targets, List.mem_append] at inside
    rcases inside with (inside | inside) | inside
    · exact ⟨_, present, inside⟩
    · exact exists_keyword_branches inside
    · exact exists_keyword_branches inside

/-- A target of keywords together is a target of one of them. -/
theorem exists_keyword_together (inside : target ∈ (Keyword.together keywords).targets) :
    ∃ keyword ∈ keywords, target ∈ keyword.targets := by
  obtain ⟨part, listed, inside⟩ := mem_targetsOfParts.1 inside
  obtain ⟨keyword, present, listed⟩ := List.mem_flatMap.1 listed
  exact exists_keyword_contributes present (Keyword.contributes_of_mem listed) inside

end Keywords

/-- The targets of numbered parts are those of the list. -/
theorem targetsOfParts_indexed (keyword : String) (schemas : List Schema) (start : Nat) :
    targetsOfParts ((schemas.zipIdx start).map fun (schema, index) =>
        ([keyword, indexStep index], schema)) =
      targetsOfList schemas := by
  induction schemas generalizing start with
  | nil => rfl
  | cons first rest ih => simp [targetsOfParts, targetsOfList, ih]

/-- The targets of families are those of the members that name them. -/
theorem targetsOfFamilies_map (declared : List (String × Schema)) :
    targetsOfFamilies (declared.map fun member => (Keyword.familyOf member.1, member.2)) =
      targetsOfDeclared declared := by
  induction declared with
  | nil => rfl
  | cons first rest ih => simp [targetsOfFamilies, targetsOfDeclared, ih]

/-- The targets of what `dependencies` asks for are those of its schemas. -/
theorem targetsOfParts_dependency {dependencies : Json} {declared : List (String × Schema)}
    {target : Target}
    (inside : target ∈ targetsOfParts (declared.map fun member =>
      Keyword.dependency dependencies member.1 member.2)) :
    target ∈ targetsOfDeclared declared := by
  obtain ⟨part, listed, inside⟩ := mem_targetsOfParts.1 inside
  obtain ⟨member, declares, rfl⟩ := List.mem_map.1 listed
  rw [Keyword.dependency] at inside
  split at inside
  · rw [targets, targets, targetsOfParts_requiring] at inside
    cases inside
  · exact mem_targetsOfDeclared.2 ⟨member, declares, inside⟩

/-- Every target stands for one of the references, read from a base. -/
def StandFor (base : Option String) (references : List String) (targets : List Target) : Prop :=
  ∀ target ∈ targets, ∃ reference ∈ references, target = .ofReference base reference

/-- Two lists of targets stand together for both lists of references. -/
theorem StandFor.append {base : Option String} {first second : List String}
    {before after : List Target} (left : StandFor base first before)
    (right : StandFor base second after) : StandFor base (first ++ second) (before ++ after) := by
  intro target listed
  rcases List.mem_append.1 listed with listed | listed
  · obtain ⟨reference, written, same⟩ := left target listed
    exact ⟨reference, List.mem_append_left _ written, same⟩
  · obtain ⟨reference, written, same⟩ := right target listed
    exact ⟨reference, List.mem_append_right _ written, same⟩

/-- The targets of one keyword stand for references in its value. -/
theorem targets_keyword {base : Option String} {name : String} {value : Json}
    (whole : StandFor base value.references (read base value).targets)
    (list : StandFor base value.references (targetsOfList (readList base value)))
    (map : StandFor base value.referencesInMap (targetsOfDeclared (readMap base value)))
    {keyword : Keyword} (present : keyword ∈ readKeywords base [(name, value)]) :
    StandFor base (if Json.schemaKeywords.contains name then value.references
      else if Json.schemaMapKeywords.contains name then value.referencesInMap else [])
      keyword.targets := by
  have many : targetsOfParts (indexed name (readList base value)) =
      targetsOfList (readList base value) :=
    targetsOfParts_indexed name _ 0
  intro target inside
  simp only [readKeywords] at present
  obtain rfl := List.mem_singleton.1 present
  have single (inner : List Target) (inside : target ∈ inner ++ []) : target ∈ inner := by
    rwa [List.append_nil] at inside
  -- The cases follow the names that reading a keyword tells apart.
  split at inside
  · rw [if_pos (by decide)]
    rw [Keyword.targets, many] at inside
    exact list target inside
  · rw [if_pos (by decide)]
    exact list target (single _ inside)
  · rw [if_pos (by decide)]
    exact list target (single _ inside)
  · rw [if_pos (by decide)]
    exact whole target (single _ inside)
  · rw [if_pos (by decide)]
    exact whole target inside
  · rw [if_pos (by decide)]
    exact whole target inside
  · rw [if_pos (by decide)]
    exact whole target inside
  · rw [if_pos (by decide)]
    split at inside
    · exact list target inside
    · exact whole target (single _ inside)
  · rw [if_pos (by decide)]
    split at inside
    · cases inside
    · exact whole target inside
    · cases inside
  · rw [if_pos (by decide)]
    exact whole target (single _ inside)
  · rw [if_neg (by decide), if_pos (by decide)]
    exact map target (targetsOfParts_dependency inside)
  · rw [if_pos (by decide)]
    exact whole target (single _ inside)
  · rw [if_neg (by decide), if_pos (by decide)]
    exact map target inside
  · rw [if_neg (by decide), if_pos (by decide)]
    rw [Keyword.targets, targetsOfFamilies_map] at inside
    exact map target inside
  · rw [if_pos (by decide)]
    split at inside
    · cases inside
    · exact whole target inside
    · cases inside
  · obtain ⟨listed, same, none⟩ := plain_eq_parts name value
    rw [same, Keyword.targets, none] at inside
    cases inside

mutual

/-- Every target of a schema stands for a reference in its document. -/
theorem targets_read (base : Option String) : ∀ json : Json,
    StandFor base json.references (read base json).targets
  | .null, _, inside | .bool true, _, inside | .bool false, _, inside | .number _, _, inside
  | .string _, _, inside | .array _, _, inside => by cases inside
  | .object fields, target, inside => by
    cases written : (fields.lookup "$ref").bind Json.asString? with
    | some text =>
      simp only [read, written, targets, targetsOfParts, List.append_nil,
        List.mem_singleton] at inside
      refine ⟨text, ?_, inside⟩
      obtain ⟨content, found, same⟩ := Option.bind_eq_some_iff.1 written
      simp [Json.references, Json.get?, Json.members, found, same]
    | none =>
      rw [read_object written] at inside
      obtain ⟨other, present, inside⟩ := exists_keyword_together inside
      obtain ⟨reference, written, same⟩ :=
        targets_readKeywords base fields other present target inside
      exact ⟨reference, List.mem_append_right _ written, same⟩
termination_by structural json => json

/-- Every target of a keyword stands for a reference among the keywords. -/
theorem targets_readKeywords (base : Option String) : ∀ fields : List (String × Json),
    ∀ keyword ∈ readKeywords base fields,
      StandFor base (Json.referencesInKeywords fields) keyword.targets
  | [], _, present, _, _ => by cases present
  | (name, value) :: rest, keyword, present, target, inside => by
    rw [readKeywords_cons, List.mem_append] at present
    rw [Json.referencesInKeywords]
    rcases present with present | present
    · obtain ⟨reference, written, same⟩ := targets_keyword (targets_read base value)
        (targets_readList base value) (targets_readMap base value) present target inside
      exact ⟨reference, List.mem_append_left _ written, same⟩
    · obtain ⟨reference, written, same⟩ :=
        targets_readKeywords base rest keyword present target inside
      exact ⟨reference, List.mem_append_right _ written, same⟩
termination_by structural fields => fields

/-- Every target of a list of schemas stands for a reference in its document. -/
theorem targets_readList (base : Option String) : ∀ json : Json,
    StandFor base json.references (targetsOfList (readList base json))
  | .null, _, inside | .bool _, _, inside | .number _, _, inside
  | .string _, _, inside | .object _, _, inside => by cases inside
  | .array elements, target, inside => targets_readItems base elements target inside
termination_by structural json => json

/-- Every target of schemas stands for a reference in the items. -/
theorem targets_readItems (base : Option String) : ∀ items : List Json,
    StandFor base (Json.referencesInItems items) (targetsOfList (readItems base items))
  | [], _, inside => by cases inside
  | item :: rest, target, inside => by
    rw [readItems, targetsOfList] at inside
    exact (targets_read base item).append (targets_readItems base rest) target inside
termination_by structural items => items

/-- Every target of named schemas stands for a reference in their document. -/
theorem targets_readMap (base : Option String) : ∀ json : Json,
    StandFor base json.referencesInMap (targetsOfDeclared (readMap base json))
  | .null, _, inside | .bool _, _, inside | .number _, _, inside
  | .string _, _, inside | .array _, _, inside => by cases inside
  | .object fields, target, inside => targets_readMembers base fields target inside
termination_by structural json => json

/-- Every target of named schemas stands for a reference in the members. -/
theorem targets_readMembers (base : Option String) : ∀ fields : List (String × Json),
    StandFor base (Json.referencesInValues fields) (targetsOfDeclared (readMembers base fields))
  | [], _, inside => by cases inside
  | (_, value) :: rest, target, inside => by
    rw [readMembers, targetsOfDeclared] at inside
    exact (targets_read base value).append (targets_readMembers base rest) target inside
termination_by structural fields => fields

end

/-- A schema without references has no targets. -/
theorem targets_eq_nil {json : Json} (none : json.references = []) (base : Option String) :
    (read base json).targets = [] := by
  apply List.eq_nil_iff_forall_not_mem.2
  intro target inside
  obtain ⟨reference, written, -⟩ := targets_read base json target inside
  rw [none] at written
  cases written

end GatewayCheck.Schema
