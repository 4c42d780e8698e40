import GatewayCheck.Registry
import GatewayCheck.Proofs.Entries
import GatewayCheck.Proofs.Schema.Targets
import GatewayCheck.Proofs.Schema.ProperForm

/-!
Closing a schema for the strict sink. A closed schema accepts what the open one accepts and declares
at the top level, and closing adds no references and keeps the proper form.
-/
namespace GatewayCheck

open Schema

namespace Json

/-- A new member stands between two parts of the members. -/
theorem insertMember_of_absent {key : String} (value : Json) {members : List (String × Json)}
    (absent : members.lookup key = none) :
    ∃ before after, members = before ++ after ∧
      insertMember key value members = before ++ (key, value) :: after := by
  induction members with
  | nil => exact ⟨[], [], rfl, rfl⟩
  | cons first rest ih =>
    obtain ⟨name, kept⟩ := first
    have different : key ≠ name := fun same => by simp [same] at absent
    rw [insertMember, if_neg different]
    split
    · exact ⟨[], (name, kept) :: rest, rfl, rfl⟩
    · have later : rest.lookup key = none := by
        have other : (key == name) = false := by simpa using different
        rwa [List.lookup_cons, other] at absent
      obtain ⟨before, after, split, inserted⟩ := ih later
      exact ⟨(name, kept) :: before, after, by rw [split]; rfl, by rw [inserted]; rfl⟩

/-- A document has a value under a key exactly when the key is one of its own. -/
theorem get?_isSome_iff {json : Json} {key : String} :
    (json.get? key).isSome ↔ key ∈ json.members.map Prod.fst :=
  Entries.lookup_isSome_iff

end Json

namespace Sink

/-- The lenient sink leaves every schema as it is. -/
theorem close_draft (schema : Json) : draft.close schema = schema := by
  cases schema <;> simp [close, isStrict]

/-- Closing leaves a schema as it is, or adds that other members are refused. -/
theorem close_cases (sink : Sink) (fields : List (String × Json)) :
    sink.close (.object fields) = .object fields ∨
      sink = runtime ∧ (fields.lookup "properties").isSome ∧
        fields.lookup "additionalProperties" = none ∧
        ∃ before after, fields = before ++ after ∧
          sink.close (.object fields) =
            .object (before ++ ("additionalProperties", .bool false) :: after) := by
  rw [close]
  split
  · rename_i strict
    simp only [Bool.and_eq_true, Option.isNone_iff_eq_none] at strict
    obtain ⟨⟨strict, present⟩, absent⟩ := strict
    obtain ⟨before, after, split, inserted⟩ := Json.insertMember_of_absent (.bool false) absent
    refine .inr ⟨?_, present, absent, before, after, split, by rw [inserted]⟩
    cases sink with
    | runtime => rfl
    | draft => cases strict
  · exact .inl rfl

end Sink

namespace Schema

/-! ### References and form -/

/-- The references in keywords are listed one keyword after another. -/
theorem referencesInKeywords_append (first second : List (String × Json)) :
    Json.referencesInKeywords (first ++ second) =
      Json.referencesInKeywords first ++ Json.referencesInKeywords second := by
  induction first with
  | nil => rfl
  | cons field rest ih =>
    rw [List.cons_append, Json.referencesInKeywords, Json.referencesInKeywords, ih,
      List.append_assoc]

/-- Closing adds no references. -/
theorem references_close (sink : Sink) (schema : Json) :
    (sink.close schema).references = schema.references := by
  cases schema with
  | object fields =>
    rcases sink.close_cases fields with same | ⟨-, -, -, before, after, rfl, closed⟩
    · rw [same]
    · have unseen : ("$ref" == "additionalProperties") = false := by decide
      have reference : (Json.object (before ++ ("additionalProperties", .bool false) :: after)).get?
          "$ref" = (Json.object (before ++ after)).get? "$ref" := by
        simp only [Json.get?, Json.members, List.lookup_append, List.lookup_cons, unseen]
      have silent : Json.referencesInKeywords (("additionalProperties", .bool false) :: after) =
          Json.referencesInKeywords after := rfl
      rw [closed, Json.references, Json.references, reference, referencesInKeywords_append,
        referencesInKeywords_append, silent]
  | null | bool | number | string | array => rfl

/-- Keywords are in proper form one by one. -/
theorem areForms_append (first second : List (String × Json)) :
    areForms (first ++ second) = (areForms first && areForms second) := by
  induction first with
  | nil => rfl
  | cons field rest ih => simp only [List.cons_append, areForms, ih, Bool.and_assoc]

/-- Closing keeps the proper form. -/
theorem isForm_close (sink : Sink) {schema : Json} (form : isForm schema = true) :
    isForm (sink.close schema) = true := by
  cases schema with
  | object fields =>
    rcases sink.close_cases fields with same | ⟨-, -, -, before, after, rfl, closed⟩
    · rwa [same]
    · rw [isForm, areForms_append] at form
      rw [closed, isForm, areForms_append]
      exact form
  | null | bool | number | string | array => exact form

/-! ### Acceptance -/

/-- The members that a schema declares are those of every `properties` in turn. -/
theorem declared_eq_flatMap (base : Option String) (fields : List (String × Json)) :
    Keyword.declared (readKeywords base fields) =
      (fields.filter fun field => field.1 == "properties").flatMap fun field =>
        readMap base field.2 := by
  induction fields with
  | nil => rfl
  | cons field rest ih =>
    obtain ⟨keyword, single, kind⟩ := readKeywords_single base field.1 field.2
    rw [readKeywords_cons, declared_append, ih, single, List.filter_cons]
    rcases kind with ⟨off, other, -⟩ | ⟨named, rfl⟩ | ⟨named, _, rfl⟩ | ⟨named, _, rfl⟩
    · rw [if_neg (by simpa using other), Keyword.declared_of_off off]
      rfl
    · rw [if_pos (by simpa using named), List.flatMap_cons]
      simp [Keyword.declared]
    · rw [if_neg (by simp [named])]
      rfl
    · rw [if_neg (by simp [named])]
      rfl

/-- Every keyword of a schema is that of one of its fields. -/
theorem exists_field {base : Option String} {fields : List (String × Json)} {keyword : Keyword}
    (present : keyword ∈ readKeywords base fields) :
    ∃ field ∈ fields, readKeywords base [field] = [keyword] := by
  induction fields with
  | nil => cases present
  | cons field rest ih =>
    rw [readKeywords_cons] at present
    rcases List.mem_append.1 present with present | present
    · obtain ⟨own, single, -⟩ := readKeywords_single base field.1 field.2
      rw [single] at present
      obtain rfl := List.mem_singleton.1 present
      exact ⟨field, List.mem_cons_self, single⟩
    · obtain ⟨other, listed, single⟩ := ih present
      exact ⟨other, List.mem_cons_of_mem _ listed, single⟩

/-- Without repeated keywords no two `properties` differ. -/
theorem properties_of_nodup {base : Option String} {fields : List (String × Json)} {content : Json}
    (once : (fields.map Prod.fst).Nodup) (found : fields.lookup "properties" = some content)
    {declared : List (String × Schema)}
    (present : Keyword.properties declared ∈ readKeywords base fields) :
    declared = readMap base content := by
  obtain ⟨⟨name, value⟩, listed, single⟩ := exists_field present
  obtain ⟨own, again, kind⟩ := readKeywords_single base name value
  obtain rfl := List.singleton_inj.1 (again.symm.trans single)
  rcases kind with ⟨off, -⟩ | ⟨rfl, same⟩ | ⟨-, _, same⟩ | ⟨-, _, same⟩
  · cases off
  · obtain rfl := Option.some.inj (((Entries.lookup_eq_some_iff once).2 listed).symm.trans found)
    exact Keyword.properties.inj same
  · cases same
  · cases same

/-- Without repeated keywords there is one `properties`. -/
theorem declared_of_nodup {base : Option String} {fields : List (String × Json)} {content : Json}
    (once : (fields.map Prod.fst).Nodup) (found : fields.lookup "properties" = some content) :
    Keyword.declared (readKeywords base fields) = readMap base content := by
  obtain ⟨before, after, rfl, -⟩ := List.lookup_eq_some_iff.1 found
  have none {part : List (String × Json)} (different : ∀ field ∈ part, field.1 ≠ "properties") :
      part.filter (fun field => field.1 == "properties") = [] :=
    List.filter_eq_nil_iff.2 fun field listed => by simpa using different field listed
  rw [List.map_append, List.map_cons, List.nodup_append] at once
  obtain ⟨-, once, apart⟩ := once
  have earlier := none fun field (listed : field ∈ before) =>
    apart _ (List.mem_map_of_mem listed) _ List.mem_cons_self
  have later := none fun field (listed : field ∈ after) (same : field.1 = "properties") => by
    have inside : field.1 ∈ after.map Prod.fst := List.mem_map_of_mem listed
    exact (List.nodup_cons.1 once).1 (same ▸ inside)
  rw [declared_eq_flatMap, List.filter_append, List.filter_cons, if_pos (by simp), earlier, later]
  simp

/-- A schema without `additionalProperties` restricts no other members. -/
theorem restrictsOthers_readKeywords {base : Option String} {fields : List (String × Json)}
    (absent : fields.lookup "additionalProperties" = none) :
    ∀ keyword ∈ readKeywords base fields, keyword.restrictsOthers = false := by
  induction fields with
  | nil => intro keyword present; cases present
  | cons field rest ih =>
    obtain ⟨keyword, single, kind⟩ := readKeywords_single base field.1 field.2
    have different : field.1 ≠ "additionalProperties" := fun same => by
      simp [← same] at absent
    have later : rest.lookup "additionalProperties" = none := by
      have other : ("additionalProperties" == field.1) = false := by simpa using Ne.symm different
      rwa [List.lookup_cons, other] at absent
    rw [readKeywords_cons, single]
    intro other present
    rcases List.mem_append.1 present with present | present
    · obtain rfl := List.mem_singleton.1 present
      rcases kind with ⟨off, -⟩ | ⟨-, rfl⟩ | ⟨-, _, rfl⟩ | ⟨same, -⟩
      · exact Keyword.restrictsOthers_of_off off
      · rfl
      · rfl
      · exact absurd same different
    · exact ih later other present

namespace Keyword

variable {first second : List Keyword}

/-- A restriction of the other members declares none. -/
theorem declared_insert (others : Option Schema) :
    declared (first ++ additionalProperties others :: second) = declared (first ++ second) := by
  simp [declared]

/-- A restriction of the other members declares no families of them. -/
theorem families_insert (others : Option Schema) :
    families (first ++ additionalProperties others :: second) = families (first ++ second) := by
  simp [families]

/-- A keyword that is not about members contributes the same beside a restriction of them. -/
theorem contribution_insert {keyword : Keyword} (off : keyword.isOnMembers = false)
    (others : Option Schema) :
    keyword.contribution (first ++ additionalProperties others :: second) =
      keyword.contribution (first ++ second) := by
  have counts : listedItems (first ++ additionalProperties others :: second) =
      listedItems (first ++ second) := by
    simp [listedItems]
  have outcomes (outcome : Bool) :
      branches outcome (first ++ additionalProperties others :: second) =
        branches outcome (first ++ second) := by
    simp [branches]
  have branching : (first ++ additionalProperties others :: second).any isBranch =
      (first ++ second).any isBranch := by
    simp [isBranch]
  cases keyword with
  | parts | tuple | branch => rfl
  | additionalItems items => cases items <;> simp only [contribution, counts]
  | test schema => simp only [contribution, outcomes, branching]
  | properties | patternProperties | additionalProperties => cases off

end Keyword

section Members

variable {meaning : Target → Json → Bool} {value : Json}

/-- Every family of a list accepts exactly when each of them does by itself. -/
theorem acceptsFamilies_append (first second : List (Family × Schema)) (key : String)
    (item : Json) :
    acceptsFamilies meaning (first ++ second) key item =
      (acceptsFamilies meaning first key item && acceptsFamilies meaning second key item) := by
  induction first with
  | nil => rfl
  | cons family rest ih => simp only [List.cons_append, acceptsFamilies, ih, Bool.and_assoc]

/-- Declared members accept a value when the declared schemas accept its members. -/
theorem accepts_members_iff (declared : List (String × Schema))
    (families : List (Family × Schema)) :
    (Schema.members declared families .anything).accepts meaning value = true ↔
      ∀ member ∈ value.members, acceptsDeclared meaning declared member.1 member.2 = true ∧
        acceptsFamilies meaning families member.1 member.2 = true := by
  simp [accepts]

/-- Families of members accept a value exactly when each family does by itself. -/
theorem accepts_families_iff (families : List (Family × Schema)) :
    (∀ member ∈ value.members, acceptsFamilies meaning families member.1 member.2 = true) ↔
      ∀ family ∈ families,
        (Schema.members [] [family] .anything).accepts meaning value = true := by
  induction families with
  | nil => simp [acceptsFamilies]
  | cons family rest ih =>
    have head (key : String) (item : Json) :
        acceptsFamilies meaning (family :: rest) key item =
          (acceptsFamilies meaning [family] key item && acceptsFamilies meaning rest key item) :=
      acceptsFamilies_append [family] rest key item
    rw [List.forall_mem_cons, ← ih, accepts_members_iff]
    simp only [head, Bool.and_eq_true, acceptsDeclared, true_and]
    exact ⟨fun each => ⟨fun member listed => (each member listed).1,
      fun member listed => (each member listed).2⟩,
      fun both member listed => ⟨both.1 member listed, both.2 member listed⟩⟩

/-- The families of keywords accept a value exactly when those of each keyword do. -/
theorem accepts_families_keywords (keywords : List Keyword) :
    (∀ member ∈ value.members,
        acceptsFamilies meaning (Keyword.families keywords) member.1 member.2 = true) ↔
      ∀ families, Keyword.patternProperties families ∈ keywords → ∀ family ∈ families,
        (Schema.members [] [family] .anything).accepts meaning value = true := by
  rw [accepts_families_iff]
  constructor
  · exact fun each families present family listed =>
      each family (List.mem_flatMap.2 ⟨_, present, listed⟩)
  · intro each family listed
    obtain ⟨keyword, present, listed⟩ := List.mem_flatMap.1 listed
    cases keyword with
    | patternProperties families => exact each families present family listed
    | parts | properties | additionalProperties | tuple | additionalItems | test | branch =>
      cases listed

/-- Keywords that restrict no others accept keyword by keyword. -/
theorem accepts_together_open {keywords : List Keyword}
    (unrestricted : ∀ keyword ∈ keywords, keyword.restrictsOthers = false) :
    (Keyword.together keywords).accepts meaning value = true ↔
      (∀ keyword ∈ keywords, keyword.isOnMembers = false →
        ∀ part ∈ keyword.contribution keywords, part.2.accepts meaning value = true) ∧
      (∀ declared, Keyword.properties declared ∈ keywords →
        (Schema.members declared [] .anything).accepts meaning value = true) ∧
      ∀ families, Keyword.patternProperties families ∈ keywords → ∀ family ∈ families,
        (Schema.members [] [family] .anything).accepts meaning value = true := by
  have free : ¬keywords.any Keyword.restrictsOthers = true := fun restricted => by
    obtain ⟨keyword, present, restricts⟩ := List.any_eq_true.1 restricted
    rw [unrestricted keyword present] at restricts
    cases restricts
  rw [accepts_together_iff]
  constructor
  · intro each
    exact ⟨fun keyword present _ part member => each keyword present part member,
      fun declared present => each _ present _ (Keyword.Contributes.members free).mem,
      fun families present family member =>
        each _ present _ (Keyword.Contributes.family free member).mem⟩
  · rintro ⟨apart, properties, patterns⟩ keyword present part member
    by_cases off : keyword.isOnMembers = false
    · exact apart keyword present off part member
    · cases Keyword.contributes_of_mem member with
      | members => exact properties _ present
      | family _ inside => exact patterns _ present _ inside
      | restricting | known | closed | empty => cases unrestricted _ present
      | part | positions | behind | full | choice => exact absurd rfl off

/-- Keywords that refuse all others accept what the keywords apart from members, the declared
members and the list of declared keys accept. -/
theorem accepts_together_closed {first second : List Keyword}
    (unrestricted : ∀ keyword ∈ first ++ second, keyword.restrictsOthers = false)
    (declares : (first ++ second).any Keyword.declares = true) :
    (Keyword.together (first ++ .additionalProperties none :: second)).accepts meaning value =
        true ↔
      (∀ keyword ∈ first ++ second, keyword.isOnMembers = false →
        ∀ part ∈ keyword.contribution (first ++ second), part.2.accepts meaning value = true) ∧
      (Schema.members (Keyword.declared (first ++ second)) (Keyword.families (first ++ second))
        .anything).accepts meaning value = true ∧
      (Constraint.closed ((Keyword.declared (first ++ second)).map Prod.fst)
        ((Keyword.families (first ++ second)).map Prod.fst)).holds value = true := by
  have restricted : (first ++ Keyword.additionalProperties none :: second).any
      Keyword.restrictsOthers = true :=
    List.any_eq_true.2 ⟨.additionalProperties none, by simp, rfl⟩
  have declaring : (first ++ Keyword.additionalProperties none :: second).any
      Keyword.declares = true := by
    rw [List.any_append] at declares ⊢
    exact declares
  have split (keyword : Keyword) : keyword ∈ first ++ .additionalProperties none :: second ↔
      keyword = .additionalProperties none ∨ keyword ∈ first ++ second := by
    simp only [List.mem_append, List.mem_cons]
    exact or_left_comm
  rw [accepts_together_iff]
  simp only [split]
  constructor
  · intro each
    have known := each _ (.inl rfl) _ (Keyword.Contributes.known declaring).mem
    have closed := each _ (.inl rfl) _ (Keyword.Contributes.closed declaring).mem
    rw [Keyword.declared_insert, Keyword.families_insert] at known closed
    refine ⟨fun keyword present off part member => ?_, known, closed⟩
    rw [← Keyword.contribution_insert off none] at member
    exact each keyword (.inr present) part member
  · rintro ⟨apart, members, closed⟩ keyword present part member
    by_cases off : keyword.isOnMembers = false
    · rw [Keyword.contribution_insert off] at member
      exact apart keyword (present.resolve_left fun same => by rw [same] at off; cases off) off
        part member
    · cases Keyword.contributes_of_mem member with
      | members free | family free => exact absurd restricted free
      | restricting => cases unrestricted _ (present.resolve_left (by simp))
      | known =>
        rw [Keyword.declared_insert, Keyword.families_insert]
        exact members
      | closed =>
        rw [Keyword.declared_insert, Keyword.families_insert]
        exact closed
      | empty undeclaring => exact absurd declaring undeclaring
      | part | positions | behind | full | choice => exact absurd rfl off

end Members

/-- A schema that refuses all other members accepts what the schema without this accepts, if every
key is declared. -/
theorem accepts_refusing {base : Option String} {before after : List (String × Json)}
    {content : Json} {meaning : Target → Json → Bool} {value : Json}
    (plain : ((before ++ after).lookup "$ref").bind Json.asString? = none)
    (once : ((before ++ after).map Prod.fst).Nodup)
    (found : (before ++ after).lookup "properties" = some content)
    (absent : (before ++ after).lookup "additionalProperties" = none) :
    (read base (.object (before ++ ("additionalProperties", .bool false) :: after))).accepts
        meaning value = true ↔
      (read base (.object (before ++ after))).accepts meaning value = true ∧
        (Constraint.closed ((readMap base content).map Prod.fst)
          ((Keyword.families (readKeywords base (before ++ after))).map Prod.fst)).holds value =
            true := by
  have unseen : ("$ref" == "additionalProperties") = false := by decide
  have closed_plain : ((before ++ ("additionalProperties", .bool false) :: after).lookup
      "$ref").bind Json.asString? = none := by
    rw [List.lookup_append] at plain
    rw [List.lookup_append, List.lookup_cons, unseen]
    exact plain
  have closed : readKeywords base (before ++ ("additionalProperties", .bool false) :: after) =
      readKeywords base before ++ .additionalProperties none :: readKeywords base after := by
    rw [readKeywords_append]
    rfl
  have unrestricted := @restrictsOthers_readKeywords base _ absent
  have declared := @declared_of_nodup base _ _ once found
  have properties : Keyword.properties (readMap base content) ∈
      readKeywords base (before ++ after) := mem_readKeywords found rfl
  have declares : (readKeywords base (before ++ after)).any Keyword.declares = true :=
    List.any_eq_true.2 ⟨_, properties, rfl⟩
  rw [readKeywords_append] at unrestricted declared properties declares
  rw [read_object closed_plain, closed, accepts_together_closed unrestricted declares,
    read_object plain, readKeywords_append, accepts_together_open unrestricted, declared,
    accepts_members_iff, ← accepts_families_keywords]
  constructor
  · rintro ⟨apart, members, holds⟩
    refine ⟨⟨apart, fun other present => ?_, fun member listed => (members member listed).2⟩,
      holds⟩
    rw [← readKeywords_append] at present
    rw [properties_of_nodup once found present, accepts_members_iff]
    exact fun member listed => ⟨(members member listed).1, rfl⟩
  · rintro ⟨⟨apart, members, patterns⟩, holds⟩
    have named := (accepts_members_iff _ _).1 (members _ properties)
    exact ⟨apart, fun member listed => ⟨(named member listed).1, patterns member listed⟩, holds⟩

/-- A schema without `patternProperties` declares no families. -/
theorem families_of_absent {base : Option String} {fields : List (String × Json)}
    (absent : fields.lookup "patternProperties" = none) :
    Keyword.families (readKeywords base fields) = [] := by
  rw [Keyword.families, List.flatMap_eq_nil_iff]
  intro keyword present
  obtain ⟨⟨name, value⟩, listed, single⟩ := exists_field present
  obtain ⟨own, again, kind⟩ := readKeywords_single base name value
  obtain rfl := List.singleton_inj.1 (again.symm.trans single)
  rcases kind with ⟨off, -⟩ | ⟨-, rfl⟩ | ⟨rfl, -⟩ | ⟨-, _, rfl⟩
  · simpa [Keyword.families] using Keyword.families_of_off off
  · rfl
  · have different := List.lookup_eq_none_iff.1 absent _ listed
    simp at different
  · rfl

/-- A schema that refers to no other at its top level, repeats no keyword there, and leaves it to
the sink whether other members than its properties are refused. -/
structure IsOpen (schema : Json) : Prop where
  object : ∃ fields, schema = .object fields
  plain : schema.get? "$ref" = none
  once : (schema.members.map Prod.fst).Nodup
  unrestricted : schema.get? "additionalProperties" = none
  unpatterned : schema.get? "patternProperties" = none
  properties : ∀ content, schema.get? "properties" = some content →
    ∃ members, content = .object members

/-- Every key of a value is among the properties of a schema, if the schema has properties. -/
def DeclaresKeys (schema value : Json) : Prop :=
  ∀ properties, schema.get? "properties" = some properties →
    ∀ member ∈ value.members, (properties.get? member.1).isSome

/-- A closed schema accepts what the open one accepts and, for the strict sink, declares. -/
theorem accepts_close {base : Option String} {schema : Json} {meaning : Target → Json → Bool}
    {value : Json} (isOpen : IsOpen schema) (sink : Sink) :
    (read base (sink.close schema)).accepts meaning value = true ↔
      (read base schema).accepts meaning value = true ∧
        (sink = .runtime → DeclaresKeys schema value) := by
  obtain ⟨fields, rfl⟩ := isOpen.object
  have absent : fields.lookup "additionalProperties" = none := isOpen.unrestricted
  cases sink with
  | draft => simp [Sink.close, Sink.isStrict]
  | runtime =>
    cases present : fields.lookup "properties" with
    | none =>
      have silent : DeclaresKeys (.object fields) value := fun properties found => by
        rw [show (Json.object fields).get? "properties" = none from present] at found
        cases found
      simp [Sink.close, present, silent]
    | some content =>
      obtain ⟨properties, rfl⟩ := isOpen.properties content present
      obtain ⟨before, after, split, inserted⟩ := Json.insertMember_of_absent (.bool false) absent
      have closed : Sink.runtime.close (.object fields) =
          .object (before ++ ("additionalProperties", .bool false) :: after) := by
        simp [Sink.close, Sink.isStrict, present, absent, inserted]
      have plain : (fields.lookup "$ref").bind Json.asString? = none := by
        rw [show fields.lookup "$ref" = none from isOpen.plain]
        rfl
      have once : (fields.map Prod.fst).Nodup := isOpen.once
      have unpatterned : fields.lookup "patternProperties" = none := isOpen.unpatterned
      have declares : DeclaresKeys (.object fields) value ↔
          ∀ member ∈ value.members, (properties.lookup member.1).isSome := by
        rw [DeclaresKeys, show (Json.object fields).get? "properties" = _ from present]
        simp [Json.get?, Json.members]
      subst split
      rw [closed, accepts_refusing plain once present absent,
        families_of_absent unpatterned, declares, readMap, keys_readMembers]
      apply and_congr_right
      intro _
      cases value with
      | object members =>
        simp [Constraint.holds, Constraint.undeclared, Constraint.isDeclared, Json.members]
      | null | bool | number | string | array => simp [Constraint.holds, Json.members]

end Schema

end GatewayCheck
