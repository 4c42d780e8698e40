import GatewayCheck.Schema.Compiled

/-!
Schemas read from documents. What a schema accepts is inverted keyword by keyword, and every target
of a schema stands for a reference that is written in its document.
-/
namespace GatewayCheck.Schema

/-! ### Parts and declared members -/

/-- Parts accept a value exactly when each of them does. -/
theorem acceptsParts_eq_all (meaning : Target → Json → Bool) (parts : List (List String × Schema))
    (value : Json) :
    acceptsParts meaning parts value = parts.all fun part => part.2.accepts meaning value := by
  induction parts with
  | nil => rfl
  | cons part rest ih => rw [acceptsParts, ih, List.all_cons]

/-- Some alternative accepts a value. -/
theorem acceptsSome_eq_any (meaning : Target → Json → Bool) (alternatives : List Schema)
    (value : Json) :
    acceptsSome meaning alternatives value =
      alternatives.any fun alternative => alternative.accepts meaning value := by
  induction alternatives with
  | nil => rfl
  | cons first rest ih => rw [acceptsSome, ih, List.any_cons]

/-- The first declaration of a key decides. -/
theorem acceptsDeclared_eq (meaning : Target → Json → Bool) (declared : List (String × Schema))
    (key : String) (value : Json) :
    acceptsDeclared meaning declared key value =
      (declared.lookup key).all fun schema => schema.accepts meaning value := by
  induction declared with
  | nil => rfl
  | cons first rest ih =>
    obtain ⟨name, schema⟩ := first
    rw [acceptsDeclared, List.lookup_cons]
    by_cases named : name = key
    · simp [named]
    · have other : (key == name) = false := by simpa using Ne.symm named
      simp [named, other, ih]

/-- Schemas read from members stand under the keys of their documents. -/
theorem lookup_readMembers (base : Option String) (fields : List (String × Json)) (key : String) :
    (readMembers base fields).lookup key = (fields.lookup key).map (read base) := by
  induction fields with
  | nil => rfl
  | cons first rest ih =>
    obtain ⟨name, value⟩ := first
    rw [readMembers, List.lookup_cons, List.lookup_cons, ih]
    cases key == name <;> rfl

/-- Schemas in an object are read one by one. -/
theorem readMembers_eq_map (base : Option String) (fields : List (String × Json)) :
    readMembers base fields = fields.map fun field => (field.1, read base field.2) := by
  induction fields with
  | nil => rfl
  | cons first rest ih => rw [readMembers, ih, List.map_cons]

/-- Schemas read from members have the keys of their documents. -/
theorem keys_readMembers (base : Option String) (fields : List (String × Json)) :
    (readMembers base fields).map Prod.fst = fields.map Prod.fst := by
  rw [readMembers_eq_map, List.map_map]
  rfl

/-- Schemas in a list are read one by one. -/
theorem readItems_eq_map (base : Option String) (elements : List Json) :
    readItems base elements = elements.map (read base) := by
  induction elements with
  | nil => rfl
  | cons element rest ih => rw [readItems, ih, List.map_cons]

/-! ### Keywords -/

/-- The first field of a schema is read by itself. -/
theorem readKeywords_cons (base : Option String) (field : String × Json)
    (rest : List (String × Json)) :
    readKeywords base (field :: rest) = readKeywords base [field] ++ readKeywords base rest := rfl

/-- Keywords are read one by one. -/
theorem readKeywords_append (base : Option String) (first second : List (String × Json)) :
    readKeywords base (first ++ second) = readKeywords base first ++ readKeywords base second := by
  induction first with
  | nil => rfl
  | cons field rest ih =>
    rw [List.cons_append, readKeywords_cons, readKeywords_cons base field rest, ih,
      List.append_assoc]

/-- The keyword of a field is among the keywords of a schema. -/
theorem mem_readKeywords {base : Option String} {fields : List (String × Json)} {name : String}
    {value : Json} {keyword : Keyword} (found : fields.lookup name = some value)
    (single : readKeywords base [(name, value)] = [keyword]) :
    keyword ∈ readKeywords base fields := by
  obtain ⟨before, after, rfl, -⟩ := List.lookup_eq_some_iff.1 found
  rw [readKeywords_append, readKeywords_cons, single]
  simp

/-- Keys that are asked for have no targets. -/
theorem targetsOfParts_requiring (steps : List String) (names : List Json) :
    targetsOfParts (Keyword.requiring steps names) = [] := by
  rw [Keyword.requiring]
  induction names.filterMap Json.asString? with
  | nil => rfl
  | cons first rest ih => exact ih

/-- A keyword whose value holds no schemas stands for constraints alone. -/
theorem plain_eq_parts (name : String) (value : Json) :
    ∃ listed, Keyword.plain name value = .parts listed ∧ targetsOfParts listed = [] := by
  have limited (constraint : Option Constraint) :
      ∃ listed, Keyword.limitOf name constraint = .parts listed ∧ targetsOfParts listed = [] := by
    cases constraint <;> exact ⟨_, rfl, rfl⟩
  unfold Keyword.plain
  split <;> first
    | exact limited _
    | exact ⟨_, rfl, rfl⟩
    | exact ⟨_, rfl, targetsOfParts_requiring _ _⟩
    | (split <;> exact ⟨_, rfl, rfl⟩)

namespace Keyword

/-- The keyword is about the members of an object. -/
def isOnMembers : Keyword → Bool
  | properties _ | patternProperties _ | additionalProperties _ => true
  | _ => false

variable {keyword : Keyword}

/-- A keyword that is not about members declares none. -/
theorem declared_of_off (off : keyword.isOnMembers = false) : declared [keyword] = [] := by
  cases keyword <;> first | rfl | cases off

/-- A keyword that is not about members declares no families of them. -/
theorem families_of_off (off : keyword.isOnMembers = false) : families [keyword] = [] := by
  cases keyword <;> first | rfl | cases off

/-- A keyword that is not about members restricts none. -/
theorem restrictsOthers_of_off (off : keyword.isOnMembers = false) :
    keyword.restrictsOthers = false := by
  cases keyword <;> first | rfl | cases off

end Keyword

/-- A field is read as one keyword, and its name says whether and how the keyword is about
members. -/
theorem readKeywords_single (base : Option String) (name : String) (value : Json) :
    ∃ keyword, readKeywords base [(name, value)] = [keyword] ∧
      ((keyword.isOnMembers = false ∧ name ≠ "properties" ∧ name ≠ "patternProperties") ∨
        (name = "properties" ∧ keyword = .properties (readMap base value)) ∨
        (name = "patternProperties" ∧ ∃ families, keyword = .patternProperties families) ∨
        (name = "additionalProperties" ∧ ∃ others, keyword = .additionalProperties others)) := by
  refine ⟨_, rfl, ?_⟩
  -- The cases follow the names that reading a keyword tells apart.
  split
  case h_13 => exact .inr (.inl ⟨rfl, rfl⟩)
  case h_14 => exact .inr (.inr (.inl ⟨rfl, _, rfl⟩))
  case h_15 =>
    split
    · exact .inr (.inr (.inr ⟨rfl, _, rfl⟩))
    · exact .inr (.inr (.inr ⟨rfl, _, rfl⟩))
    · exact .inl ⟨rfl, by decide, by decide⟩
  case h_16 =>
    obtain ⟨listed, same, -⟩ := plain_eq_parts name value
    exact .inl ⟨by rw [same]; rfl, ‹_›, ‹_›⟩
  all_goals first
    | exact .inl ⟨rfl, by decide, by decide⟩
    | (split <;> exact .inl ⟨rfl, by decide, by decide⟩)

/-- A schema without a reference is read keyword by keyword. -/
theorem read_object {base : Option String} {fields : List (String × Json)}
    (plain : (fields.lookup "$ref").bind Json.asString? = none) :
    read base (.object fields) = Keyword.together (readKeywords base fields) := by
  rw [read]
  simp only [plain]

/-- A reference hides the other keywords of its schema. -/
theorem accepts_reference {base : Option String} {fields : List (String × Json)} {text : String}
    (written : fields.lookup "$ref" = some (.string text)) (meaning : Target → Json → Bool)
    (value : Json) :
    (read base (.object fields)).accepts meaning value =
      meaning (.ofReference base text) value := by
  simp [read, written, Json.asString?, accepts, acceptsParts]

/-! ### Members -/

/-- The members declared by keywords are declared by one keyword after another. -/
theorem declared_append (first second : List Keyword) :
    Keyword.declared (first ++ second) = Keyword.declared first ++ Keyword.declared second :=
  List.flatMap_append

/-- The members that a schema declares are those of its first `properties`, before any others. -/
theorem declared_readKeywords {base : Option String} {fields : List (String × Json)}
    {content : Json}
    (found : fields.lookup "properties" = some content) :
    ∃ others, Keyword.declared (readKeywords base fields) = readMap base content ++ others := by
  obtain ⟨before, after, rfl, earlier⟩ := List.lookup_eq_some_iff.1 found
  have none : Keyword.declared (readKeywords base before) = [] := by
    clear found
    induction before with
    | nil => rfl
    | cons field rest ih =>
      have different : field.1 ≠ "properties" := fun same => by
        simpa [same] using earlier field List.mem_cons_self
      obtain ⟨keyword, single, kind⟩ := readKeywords_single base field.1 field.2
      rw [readKeywords_cons, declared_append,
        ih fun other listed => earlier other (by simp [listed]),
        single]
      rcases kind with ⟨off, -⟩ | ⟨same, -⟩ | ⟨-, _, rfl⟩ | ⟨-, _, rfl⟩
      · rw [Keyword.declared_of_off off]
        rfl
      · exact absurd same different
      · rfl
      · rfl
  refine ⟨Keyword.declared (readKeywords base after), ?_⟩
  rw [readKeywords_append, readKeywords_cons, declared_append, declared_append, none]
  simp [readKeywords, Keyword.declared]

/-! ### Parts of keywords -/

namespace Keyword

/-- What a keyword contributes among others. Declared members and families are parts of their own
unless a keyword restricts the others, and then they are parts of that keyword. Additional items are
those behind a list, and a test matters if something depends on its outcome. -/
inductive Contributes (keywords : List Keyword) : Keyword → List String × Schema → Prop
  | part {listed : List (List String × Schema)} {part : List String × Schema}
    (inside : part ∈ listed) : Contributes keywords (parts listed) part
  | members {named : List (String × Schema)} (free : ¬ keywords.any restrictsOthers = true) :
    Contributes keywords (properties named) ([], .members named [] .anything)
  | family {grouped : List (Family × Schema)} {family : Family × Schema}
    (free : ¬ keywords.any restrictsOthers = true) (inside : family ∈ grouped) :
    Contributes keywords (patternProperties grouped) ([], .members [] [family] .anything)
  | restricting (others : Schema) : Contributes keywords (additionalProperties (some others))
    ([], .members (declared keywords) (families keywords) others)
  | known (declaring : keywords.any declares = true) :
    Contributes keywords (additionalProperties none)
      ([], .members (declared keywords) (families keywords) .anything)
  | closed (declaring : keywords.any declares = true) :
    Contributes keywords (additionalProperties none)
      (["additionalProperties"], .constraint (.closed ((declared keywords).map Prod.fst)
        ((families keywords).map Prod.fst)))
  | empty (undeclaring : ¬ keywords.any declares = true) :
    Contributes keywords (additionalProperties none)
      (["additionalProperties"], .constraint .noMembers)
  | positions (positions : List Schema) : Contributes keywords (tuple positions)
    (["items"], .tuple positions)
  | behind {count : Nat} (others : Schema) (listed : count ∈ listedItems keywords) :
    Contributes keywords (additionalItems (some others)) (["additionalItems"], .behind count others)
  | full {count : Nat} (listed : count ∈ listedItems keywords) :
    Contributes keywords (additionalItems none)
      (["additionalItems"], .constraint (.noItemsBehind count))
  | choice (schema : Schema) (branching : keywords.any isBranch = true) :
    Contributes keywords (test schema)
      ([], .conditional schema (.all (branches true keywords)) (.all (branches false keywords)))

variable {keywords : List Keyword} {keyword : Keyword} {part : List String × Schema}

/-- Every part of a keyword is contributed in one of these ways. -/
theorem contributes_of_mem (listed : part ∈ keyword.contribution keywords) :
    Contributes keywords keyword part := by
  cases keyword with
  | parts => exact .part listed
  | properties =>
    rw [contribution] at listed
    split at listed
    · cases listed
    · obtain rfl := List.mem_singleton.1 listed
      exact .members ‹_›
  | patternProperties =>
    rw [contribution] at listed
    split at listed
    · cases listed
    · obtain ⟨family, inside, rfl⟩ := List.mem_map.1 listed
      exact .family ‹_› inside
  | additionalProperties others =>
    cases others with
    | some others =>
      obtain rfl := List.mem_singleton.1 listed
      exact .restricting others
    | none =>
      rw [contribution] at listed
      split at listed
      · simp only [List.mem_cons, List.not_mem_nil, or_false] at listed
        obtain rfl | rfl := listed
        · exact .known ‹_›
        · exact .closed ‹_›
      · obtain rfl := List.mem_singleton.1 listed
        exact .empty ‹_›
  | tuple =>
    obtain rfl := List.mem_singleton.1 listed
    exact .positions _
  | additionalItems others =>
    cases others with
    | some others =>
      obtain ⟨count, known, rfl⟩ := List.mem_map.1 listed
      exact .behind others known
    | none =>
      obtain ⟨count, known, rfl⟩ := List.mem_map.1 listed
      exact .full known
  | test =>
    rw [contribution] at listed
    split at listed
    · obtain rfl := List.mem_singleton.1 listed
      exact .choice _ ‹_›
    · cases listed
  | branch => cases listed

/-- What is contributed in one of these ways is a part of the keyword. -/
theorem Contributes.mem (contributes : Contributes keywords keyword part) :
    part ∈ keyword.contribution keywords := by
  cases contributes with
  | part inside => exact inside
  | members free =>
    rw [contribution, if_neg free]
    exact List.mem_singleton_self _
  | family free inside =>
    rw [contribution, if_neg free]
    exact List.mem_map_of_mem inside
  | restricting => exact List.mem_singleton_self _
  | known declaring =>
    rw [contribution, if_pos declaring]
    exact List.mem_cons_self
  | closed declaring =>
    rw [contribution, if_pos declaring]
    exact List.mem_cons_of_mem _ List.mem_cons_self
  | empty undeclaring =>
    rw [contribution, if_neg undeclaring]
    exact List.mem_singleton_self _
  | positions => exact List.mem_singleton_self _
  | behind others listed =>
    rw [contribution]
    exact List.mem_map_of_mem listed
  | full listed =>
    rw [contribution]
    exact List.mem_map_of_mem listed
  | choice schema branching =>
    rw [contribution, if_pos branching]
    exact List.mem_singleton_self _

/-- A keyword that restricts the others contributes what all keywords declare. -/
theorem exists_contributes_of_restricted (restricted : keywords.any restrictsOthers = true)
    (declaring : keywords.any declares = true) :
    ∃ keyword ∈ keywords, ∃ others,
      Contributes keywords keyword ([], .members (declared keywords) (families keywords) others) := by
  obtain ⟨keyword, present, restricts⟩ := List.any_eq_true.1 restricted
  refine ⟨keyword, present, ?_⟩
  cases keyword with
  | parts | properties | patternProperties | tuple | additionalItems | test | branch =>
    cases restricts
  | additionalProperties others =>
    cases others with
    | some others => exact ⟨others, .restricting others⟩
    | none => exact ⟨.anything, .known declaring⟩

end Keyword

/-! ### Accepted values -/

section Inversion

variable {base : Option String} {fields : List (String × Json)} {meaning : Target → Json → Bool}
  {value : Json}

/-- Keywords accept a value exactly when the parts of every keyword do. -/
theorem accepts_together_iff {keywords : List Keyword} :
    (Keyword.together keywords).accepts meaning value = true ↔
      ∀ keyword ∈ keywords, ∀ part ∈ keyword.contribution keywords,
        part.2.accepts meaning value = true := by
  rw [Keyword.together, accepts, acceptsParts_eq_all]
  simp only [List.all_eq_true, List.mem_flatMap, forall_exists_index, and_imp]
  exact ⟨fun each keyword listed part member => each part keyword listed member,
    fun each part keyword listed member => each keyword listed part member⟩

/-- A schema accepts a value exactly when the parts of every keyword do. -/
theorem accepts_read_iff (plain : (fields.lookup "$ref").bind Json.asString? = none) :
    (read base (.object fields)).accepts meaning value = true ↔
      ∀ keyword ∈ readKeywords base fields,
        ∀ part ∈ keyword.contribution (readKeywords base fields),
          part.2.accepts meaning value = true := by
  rw [read_object plain, accepts_together_iff]

/-- The parts of a keyword that stands for itself accept. -/
theorem part_accepted (plain : (fields.lookup "$ref").bind Json.asString? = none)
    (accepted : (read base (.object fields)).accepts meaning value = true)
    {name : String} {content : Json} {listed : List (List String × Schema)}
    {part : List String × Schema} (found : fields.lookup name = some content)
    (single : readKeywords base [(name, content)] = [.parts listed]) (member : part ∈ listed) :
    part.2.accepts meaning value = true :=
  (accepts_read_iff plain).1 accepted _ (mem_readKeywords found single) part member

/-- A constraint that a keyword places holds of every accepted value. -/
theorem limit_holds (plain : (fields.lookup "$ref").bind Json.asString? = none)
    (accepted : (read base (.object fields)).accepts meaning value = true)
    {name : String} {content : Json} {limit : Constraint}
    (found : fields.lookup name = some content)
    (single : readKeywords base [(name, content)] = [Keyword.limit name limit]) :
    limit.holds value = true :=
  part_accepted plain accepted found single (List.mem_singleton_self _)

/-- An accepted value is of the type that its schema names. -/
theorem type_accepted (plain : (fields.lookup "$ref").bind Json.asString? = none)
    (accepted : (read base (.object fields)).accepts meaning value = true) {type : ValueType}
    (found : fields.lookup "type" = some (.string type.name)) : type.includes value = true := by
  have holds : (Constraint.type [type]).holds value = true :=
    limit_holds plain accepted found (by cases type <;> rfl)
  simpa [Constraint.holds] using holds

/-- An accepted value is one of those that its schema lists. -/
theorem enum_accepted (plain : (fields.lookup "$ref").bind Json.asString? = none)
    (accepted : (read base (.object fields)).accepts meaning value = true) {allowed : List Json}
    (found : fields.lookup "enum" = some (.array allowed)) : ∃ item ∈ allowed, value.same item := by
  have holds : (Constraint.values allowed).holds value = true :=
    limit_holds plain accepted found rfl
  simpa [Constraint.holds] using holds

/-- The pattern of a schema is found in every accepted text. -/
theorem pattern_accepted {text source : String}
    (plain : (fields.lookup "$ref").bind Json.asString? = none)
    (accepted : (read base (.object fields)).accepts meaning (.string text) = true)
    (found : fields.lookup "pattern" = some (.string source)) :
    (Keyword.familyOf source).pattern.isFoundIn text = true := by
  have holds : (Constraint.pattern (Keyword.familyOf source)).holds (.string text) = true :=
    limit_holds plain accepted found rfl
  exact holds

/-- An accepted object has every member that its schema requires. -/
theorem required_accepted {members : List (String × Json)} {names : List String} {name : String}
    (plain : (fields.lookup "$ref").bind Json.asString? = none)
    (accepted : (read base (.object fields)).accepts meaning (.object members) = true)
    (found : fields.lookup "required" = some (.texts names)) (listed : name ∈ names) :
    ∃ item, members.lookup name = some item := by
  have member : (["required"], Schema.constraint (.required name)) ∈
      ((Json.texts names).items.filterMap Json.asString?).map fun key =>
        (["required"], Schema.constraint (.required key)) := by
    simpa [Json.texts, Json.items, Json.asString?, List.filterMap_map] using listed
  have holds := part_accepted plain accepted found rfl member
  exact Option.isSome_iff_exists.1 holds

/-- Some alternative of a schema accepts every accepted value. -/
theorem anyOf_accepted (plain : (fields.lookup "$ref").bind Json.asString? = none)
    (accepted : (read base (.object fields)).accepts meaning value = true)
    {alternatives : List Json}
    (found : fields.lookup "anyOf" = some (.array alternatives)) :
    ∃ alternative ∈ alternatives, (read base alternative).accepts meaning value = true := by
  have holds := part_accepted plain accepted found rfl (List.mem_singleton_self _)
  simpa [accepts, acceptsSome_eq_any, readList, readItems_eq_map] using holds

/-- The items of an accepted list are accepted by the schema for items. -/
theorem items_accepted {items : List Json} {each : List (String × Json)}
    (plain : (fields.lookup "$ref").bind Json.asString? = none)
    (accepted : (read base (.object fields)).accepts meaning (.array items) = true)
    (found : fields.lookup "items" = some (.object each)) :
    ∀ item ∈ items, (read base (.object each)).accepts meaning item = true := by
  have holds := part_accepted plain accepted found rfl (List.mem_singleton_self _)
  simpa [accepts, Json.items] using holds

/-- The members that a schema declares are accepted by the schemas declared for them. -/
theorem declared_accepted {content : Json}
    (plain : (fields.lookup "$ref").bind Json.asString? = none)
    (accepted : (read base (.object fields)).accepts meaning value = true)
    (found : fields.lookup "properties" = some content) (member : String × Json)
    (listed : member ∈ value.members) :
    acceptsDeclared meaning (readMap base content) member.1 member.2 = true := by
  have parts := (accepts_read_iff plain).1 accepted
  have inside : Keyword.properties (readMap base content) ∈ readKeywords base fields :=
    mem_readKeywords found rfl
  by_cases restricted : (readKeywords base fields).any Keyword.restrictsOthers = true
  · obtain ⟨keyword, present, _, contributes⟩ := Keyword.exists_contributes_of_restricted restricted
      (List.any_eq_true.2 ⟨_, inside, rfl⟩)
    have holds := parts _ present _ contributes.mem
    simp only [accepts, List.all_eq_true, Bool.and_eq_true] at holds
    have named := (holds member listed).1.1
    obtain ⟨rest, declared⟩ := @declared_readKeywords base _ _ found
    rw [declared, acceptsDeclared_eq, List.lookup_append] at named
    rw [acceptsDeclared_eq]
    cases first : (readMap base content).lookup member.1 with
    | none => rfl
    | some schema => simpa [first] using named
  · have holds := parts _ inside _ (Keyword.Contributes.members restricted).mem
    simp only [accepts, List.all_eq_true, Bool.and_eq_true] at holds
    exact (holds member listed).1.1

/-- A member is accepted by the schema that is declared for its key. -/
theorem property_accepted {properties : List (String × Json)} {key : String} {schema item : Json}
    (plain : (fields.lookup "$ref").bind Json.asString? = none)
    (accepted : (read base (.object fields)).accepts meaning value = true)
    (found : fields.lookup "properties" = some (.object properties))
    (declared : properties.lookup key = some schema) (member : value.get? key = some item) :
    (read base schema).accepts meaning item = true := by
  obtain ⟨before, after, split, -⟩ := List.lookup_eq_some_iff.1 member
  have holds := declared_accepted plain accepted found (key, item) (by simp [split])
  rw [acceptsDeclared_eq, readMap, lookup_readMembers, declared] at holds
  simpa using holds

/-- A member is accepted by the schema that a document declares for its key. -/
theorem member_accepted {schema declared item : Json} {key : String}
    (plain : schema.get? "$ref" = none) (accepted : (read base schema).accepts meaning value = true)
    (found : (schema.get? "properties").bind (Json.get? key) = some declared)
    (member : value.get? key = some item) : (read base declared).accepts meaning item = true := by
  obtain ⟨content, properties, inside⟩ := Option.bind_eq_some_iff.1 found
  cases schema with
  | object fields =>
    cases content with
    | object members =>
      have unreferring : (fields.lookup "$ref").bind Json.asString? = none := by
        rw [show fields.lookup "$ref" = none from plain]
        rfl
      exact property_accepted unreferring accepted properties inside member
    | null | bool | number | string | array => cases inside
  | null | bool | number | string | array => cases properties

/-- The elements of an accepted list are accepted by the schema that a document has for items. -/
theorem element_accepted {schema : Json} {each : List (String × Json)} {items : List Json}
    (plain : schema.get? "$ref" = none)
    (accepted : (read base schema).accepts meaning (.array items) = true)
    (found : schema.get? "items" = some (.object each)) :
    ∀ item ∈ items, (read base (.object each)).accepts meaning item = true := by
  cases schema with
  | object fields =>
    refine items_accepted ?_ accepted found
    rw [show fields.lookup "$ref" = none from plain]
    rfl
  | null | bool | number | string | array => cases found

/-- A value that a schema of one type accepts is of this type. -/
theorem typed_accepted {schema : Json} {type : ValueType} (plain : schema.get? "$ref" = none)
    (accepted : (read base schema).accepts meaning value = true)
    (found : schema.get? "type" = some (.string type.name)) : type.includes value = true := by
  cases schema with
  | object fields =>
    refine type_accepted ?_ accepted found
    rw [show fields.lookup "$ref" = none from plain]
    rfl
  | null | bool | number | string | array => cases found

end Inversion

end GatewayCheck.Schema
