import GatewayCheck.Proofs.Schema.Fields

/-!
Looser schemas. One schema is looser than another when the two are alike field by field, but for
properties that the looser one does not declare. This can be computed, and a looser schema accepts
whatever the stricter one accepts.
-/
namespace GatewayCheck

/-! ### Identical documents -/

namespace Json

mutual

/-- Two documents are the same, down to the form in which their numbers are written. -/
def isIdentical : Json → Json → Bool
  | null, null => true
  | bool left, bool right => left == right
  | number left, number right => left == right
  | string left, string right => left == right
  | array left, array right => areIdenticalItems left right
  | object left, object right => areIdenticalMembers left right
  | _, _ => false
termination_by structural left => left

/-- Two lists of documents are the same. -/
def areIdenticalItems : List Json → List Json → Bool
  | [], [] => true
  | left :: lefts, right :: rights => left.isIdentical right && areIdenticalItems lefts rights
  | _, _ => false
termination_by structural left => left

/-- Two lists of members are the same. -/
def areIdenticalMembers : List (String × Json) → List (String × Json) → Bool
  | [], [] => true
  | (leftKey, left) :: lefts, (rightKey, right) :: rights =>
    leftKey == rightKey && left.isIdentical right && areIdenticalMembers lefts rights
  | _, _ => false
termination_by structural left => left

end

mutual

/-- Identical documents are equal. -/
theorem eq_of_isIdentical : ∀ left right : Json, left.isIdentical right = true → left = right
  | null, right, same | bool _, right, same | number _, right, same | string _, right, same => by
    cases right <;> simp_all [isIdentical]
  | array items, right, same => by
    cases right with
    | array others => rw [eq_of_areIdenticalItems items others same]
    | null | bool | number | string | object => cases same
  | object members, right, same => by
    cases right with
    | object others => rw [eq_of_areIdenticalMembers members others same]
    | null | bool | number | string | array => cases same
termination_by structural left => left

/-- Identical lists of documents are equal. -/
theorem eq_of_areIdenticalItems : ∀ left right : List Json,
    areIdenticalItems left right = true → left = right
  | [], right, same => by
    cases right with
    | nil => rfl
    | cons => cases same
  | item :: items, right, same => by
    cases right with
    | nil => cases same
    | cons other others =>
      rw [areIdenticalItems, Bool.and_eq_true] at same
      rw [eq_of_isIdentical item other same.1, eq_of_areIdenticalItems items others same.2]
termination_by structural left => left

/-- Identical lists of members are equal. -/
theorem eq_of_areIdenticalMembers : ∀ left right : List (String × Json),
    areIdenticalMembers left right = true → left = right
  | [], right, same => by
    cases right with
    | nil => rfl
    | cons => cases same
  | (key, value) :: members, right, same => by
    cases right with
    | nil => cases same
    | cons other others =>
      obtain ⟨otherKey, otherValue⟩ := other
      simp only [areIdenticalMembers, Bool.and_eq_true, beq_iff_eq] at same
      obtain ⟨⟨rfl, first⟩, rest⟩ := same
      rw [eq_of_isIdentical value otherValue first, eq_of_areIdenticalMembers members others rest]
termination_by structural left => left

end

end Json

namespace Schema

/-! ### Looseness -/

/-- Two schemas are the same and refer to no others. -/
def areFixed (left right : Json) : Bool := left.isIdentical right && right.references.isEmpty

/-- Two schemas with these fields are references that are alike. -/
def referAlike (alike : String → String → Bool) (left right : List (String × Json)) : Bool :=
  match left.lookup "$ref", right.lookup "$ref" with
  | some (.string first), some (.string second) => alike first second
  | _, _ => false

/-- The fields of a schema neither refer to another schema nor depend on each other. -/
def areOpen (fields : List (String × Json)) : Bool :=
  ["$ref", "additionalProperties", "additionalItems", "if"].all fun name =>
    (fields.lookup name).isNone

mutual

/-- The second schema is looser than the first, given which references are alike. -/
def isLooser (alike : String → String → Bool) : Json → Json → Bool
  | .object left, .object right =>
    areFixed (.object left) (.object right) || referAlike alike left right ||
      (areOpen left && areOpen right && areFieldsLooser alike left right)
  | _, _ => false
termination_by structural _ right => right

/-- The fields of one schema are looser than those of another, each in its place; a field whose
keyword holds no looser schemas stays the same. -/
def areFieldsLooser (alike : String → String → Bool) :
    List (String × Json) → List (String × Json) → Bool
  | [], [] => true
  | (name, left) :: lefts, (other, right) :: rights =>
    name == other &&
      (areFixed (.object [(name, left)]) (.object [(other, right)]) ||
        (name == "items" && isLooser alike left right) ||
        (name == "properties" && arePropertiesLooser alike left right) ||
        (name == "anyOf" && areAlternativesLooser alike left right)) &&
      areFieldsLooser alike lefts rights
  | _, _ => false
termination_by structural _ right => right

/-- The properties of one schema are looser than those of another; there may be fewer of them. -/
def arePropertiesLooser (alike : String → String → Bool) : Json → Json → Bool
  | .object left, .object right => areMembersLooser alike left right
  | _, _ => false
termination_by structural _ right => right

/-- Every property of the second list is looser than the property of the first under its key. -/
def areMembersLooser (alike : String → String → Bool) (left : List (String × Json)) :
    List (String × Json) → Bool
  | [] => true
  | (key, right) :: rights =>
    ((left.lookup key).any fun left => isLooser alike left right) &&
      areMembersLooser alike left rights
termination_by structural right => right

/-- The alternatives of one schema are looser than those of another, each in its place. -/
def areAlternativesLooser (alike : String → String → Bool) : Json → Json → Bool
  | .array left, .array right => areItemsLooser alike left right
  | _, _ => false
termination_by structural _ right => right

/-- The schemas of one list are looser than those of another, each in its place. -/
def areItemsLooser (alike : String → String → Bool) : List Json → List Json → Bool
  | [], [] => true
  | left :: lefts, right :: rights => isLooser alike left right && areItemsLooser alike lefts rights
  | _, _ => false
termination_by structural _ right => right

end

/-- Schemas of which one is looser are objects. -/
theorem objects_of_isLooser {alike : String → String → Bool} {left right : Json}
    (looser : isLooser alike left right = true) :
    (∃ members, left = .object members) ∧ ∃ members, right = .object members := by
  cases left <;> cases right <;> first | cases looser | exact ⟨⟨_, rfl⟩, ⟨_, rfl⟩⟩

/-! ### Acceptance -/

/-- Where a schema is read: the address of its document, and what targets accept. -/
structure Context where
  base : Option String
  meaning : Target → Json → Bool

/-- The schema that a document holds accepts a value. -/
def Context.accepts (context : Context) (schema value : Json) : Bool :=
  (read context.base schema).accepts context.meaning value

section Containment

variable {strict loose : Context} {alike : String → String → Bool}

/-- Whatever one schema accepts in the strict context, another accepts in the loose context. -/
def Contained (strict loose : Context) (left right : Json) : Prop :=
  ∀ value, strict.accepts left value = true → loose.accepts right value = true

/-- Of references that are alike, what the one accepts in the strict context the other accepts in
the loose context. -/
def Carries (alike : String → String → Bool) (strict loose : Context) : Prop :=
  ∀ first second, alike first second = true → ∀ value,
    strict.meaning (.ofReference strict.base first) value = true →
      loose.meaning (.ofReference loose.base second) value = true

/-- The same schema without references accepts the same everywhere. -/
theorem contained_of_areFixed {left right : Json} (fixed : areFixed left right = true) :
    Contained strict loose left right := by
  rw [areFixed, Bool.and_eq_true, List.isEmpty_iff] at fixed
  obtain ⟨same, none⟩ := fixed
  rw [Json.eq_of_isIdentical left right same]
  intro value accepted
  have base : read strict.base right = read loose.base right := by
    apply read_congr
    rw [none]
    intro reference listed
    cases listed
  have free : (read loose.base right).accepts strict.meaning value =
      (read loose.base right).accepts loose.meaning value := by
    apply accepts_congr
    rw [targets_eq_nil none]
    intro target listed
    cases listed
  rw [Context.accepts, base, free] at accepted
  exact accepted

/-- References that are alike accept alike. -/
theorem contained_of_referAlike (carries : Carries alike strict loose)
    {left right : List (String × Json)} (refer : referAlike alike left right = true) :
    Contained strict loose (.object left) (.object right) := by
  intro value accepted
  rw [referAlike] at refer
  split at refer
  · rename_i first second before after
    rw [Context.accepts, accepts_reference before] at accepted
    rw [Context.accepts, accepts_reference after]
    exact carries first second refer value accepted
  · cases refer

/-- An open schema accepts what each of its fields accepts. -/
theorem accepts_open_iff {context : Context} {fields : List (String × Json)} {value : Json}
    (opened : areOpen fields = true) : context.accepts (.object fields) value = true ↔
      ∀ field ∈ fields, context.accepts (.object [field]) value = true := by
  simp only [areOpen, List.all_eq_true, List.forall_mem_cons, Option.isNone_iff_eq_none] at opened
  obtain ⟨plain, unrestricted, unlisted, untested, -⟩ := opened
  exact accepts_fields_iff ⟨plain, unrestricted, unlisted, untested⟩

mutual

/-- A looser schema accepts whatever the stricter one accepts. -/
theorem contained_of_isLooser (carries : Carries alike strict loose) : ∀ right left : Json,
    isLooser alike left right = true → Contained strict loose left right
  | .null, left, looser | .bool _, left, looser | .number _, left, looser
  | .string _, left, looser | .array _, left, looser => by cases left <;> cases looser
  | .object right, left, looser => by
    obtain ⟨⟨left, rfl⟩, -⟩ := objects_of_isLooser looser
    rw [isLooser, Bool.or_eq_true, Bool.or_eq_true, Bool.and_eq_true, Bool.and_eq_true] at looser
    rcases looser with (fixed | refer) | ⟨⟨before, after⟩, looser⟩
    · exact contained_of_areFixed fixed
    · exact contained_of_referAlike carries refer
    · intro value accepted
      exact (accepts_open_iff after).2 (contained_of_areFieldsLooser carries right left looser value
        ((accepts_open_iff before).1 accepted))
termination_by structural right => right

/-- Looser fields accept whatever the stricter ones accept. -/
theorem contained_of_areFieldsLooser (carries : Carries alike strict loose) :
    ∀ right left : List (String × Json), areFieldsLooser alike left right = true → ∀ value,
      (∀ field ∈ left, strict.accepts (.object [field]) value = true) →
        ∀ field ∈ right, loose.accepts (.object [field]) value = true
  | [], _, _, _, _ => by simp
  | _ :: _, [], looser, _, _ => by cases looser
  | (other, right) :: rights, (name, left) :: lefts, looser, value, each => by
    simp only [areFieldsLooser, Bool.and_eq_true, Bool.or_eq_true, beq_iff_eq] at looser
    obtain ⟨⟨rfl, head⟩, tail⟩ := looser
    rw [List.forall_mem_cons] at each ⊢
    refine ⟨?_, contained_of_areFieldsLooser carries rights lefts tail value each.2⟩
    rcases head with ((fixed | ⟨rfl, items⟩) | ⟨rfl, properties⟩) | ⟨rfl, alternatives⟩
    · exact contained_of_areFixed fixed value each.1
    · have inner := contained_of_isLooser carries right left items
      obtain ⟨⟨_, rfl⟩, ⟨_, rfl⟩⟩ := objects_of_isLooser items
      exact accepts_items_iff.2 fun item listed =>
        inner item (accepts_items_iff.1 each.1 item listed)
    · exact contained_of_arePropertiesLooser carries right left properties value each.1
    · exact contained_of_areAlternativesLooser carries right left alternatives value each.1
termination_by structural right => right

/-- Looser properties accept whatever the stricter ones accept. -/
theorem contained_of_arePropertiesLooser (carries : Carries alike strict loose) :
    ∀ right left : Json, arePropertiesLooser alike left right = true →
      Contained strict loose (.object [("properties", left)]) (.object [("properties", right)])
  | .null, left, looser | .bool _, left, looser | .number _, left, looser
  | .string _, left, looser | .array _, left, looser => by cases left <;> cases looser
  | .object right, left, looser => by
    cases left with
    | object left =>
      intro value accepted
      refine accepts_properties_iff.2 fun member listed schema found => ?_
      obtain ⟨stricter, present, contained⟩ :=
        contained_of_areMembersLooser carries right left looser member.1 schema found
      exact contained _ (accepts_properties_iff.1 accepted member listed stricter present)
    | null | bool | number | string | array => cases looser
termination_by structural right => right

/-- Looser properties accept, under each key, whatever the stricter ones accept. -/
theorem contained_of_areMembersLooser (carries : Carries alike strict loose) :
    ∀ right left : List (String × Json), areMembersLooser alike left right = true →
      ∀ key schema, right.lookup key = some schema →
        ∃ stricter, left.lookup key = some stricter ∧ Contained strict loose stricter schema
  | [], _, _, _, _, found => by cases found
  | (name, right) :: rights, left, looser, key, schema, found => by
    rw [areMembersLooser, Bool.and_eq_true, Option.any_eq_true] at looser
    obtain ⟨⟨stricter, present, head⟩, tail⟩ := looser
    have inner := contained_of_isLooser carries right stricter head
    rw [List.lookup_cons] at found
    -- Of several properties with one key the first counts, in both lists.
    split at found
    · rename_i named
      obtain rfl := Option.some.inj found
      obtain rfl : key = name := by simpa using named
      exact ⟨stricter, present, inner⟩
    · exact contained_of_areMembersLooser carries rights left tail key schema found
termination_by structural right => right

/-- Looser alternatives accept whatever the stricter ones accept. -/
theorem contained_of_areAlternativesLooser (carries : Carries alike strict loose) :
    ∀ right left : Json, areAlternativesLooser alike left right = true →
      Contained strict loose (.object [("anyOf", left)]) (.object [("anyOf", right)])
  | .null, left, looser | .bool _, left, looser | .number _, left, looser
  | .string _, left, looser | .object _, left, looser => by cases left <;> cases looser
  | .array right, left, looser => by
    cases left with
    | array left =>
      intro value accepted
      exact accepts_anyOf_iff.2 (contained_of_areItemsLooser carries right left looser value
        (accepts_anyOf_iff.1 accepted))
    | null | bool | number | string | object => cases looser
termination_by structural right => right

/-- One of the looser schemas accepts whatever one of the stricter ones accepts. -/
theorem contained_of_areItemsLooser (carries : Carries alike strict loose) :
    ∀ right left : List Json, areItemsLooser alike left right = true → ∀ value,
      (∃ schema ∈ left, strict.accepts schema value = true) →
        ∃ schema ∈ right, loose.accepts schema value = true
  | [], [], _, _, ⟨_, listed, _⟩ => by cases listed
  | [], _ :: _, looser, _, _ => by cases looser
  | _ :: _, [], looser, _, _ => by cases looser
  | right :: rights, left :: lefts, looser, value, ⟨schema, listed, accepted⟩ => by
    rw [areItemsLooser, Bool.and_eq_true] at looser
    rcases List.mem_cons.1 listed with rfl | listed
    · exact ⟨right, List.mem_cons_self,
        contained_of_isLooser carries right schema looser.1 value accepted⟩
    · obtain ⟨other, present, accepted⟩ := contained_of_areItemsLooser carries rights lefts looser.2
        value ⟨schema, listed, accepted⟩
      exact ⟨other, List.mem_cons_of_mem _ present, accepted⟩
termination_by structural right => right

end

end Containment

end Schema

end GatewayCheck
