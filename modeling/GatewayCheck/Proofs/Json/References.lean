import GatewayCheck.Proofs.Json.Parts
import GatewayCheck.Proofs.Schema.Closing

/-!
Every reference and every identifier of a document, wherever they stand. The references that schemas
see are among them, and a part of a document has no others.
-/
namespace GatewayCheck.Json

/-- The text of a member, if it has the wanted key. -/
def textOf (wanted key : String) (value : Json) : List String :=
  if key = wanted then value.asString?.toList else []

mutual

/-- Every text under a key, wherever it stands in a document. -/
def textsUnder (wanted : String) : Json → List String
  | array items => textsUnderOfItems wanted items
  | object members => textsUnderOfMembers wanted members
  | _ => []
termination_by structural json => json

/-- Every text under a key in a list of documents. -/
def textsUnderOfItems (wanted : String) : List Json → List String
  | [] => []
  | item :: rest => item.textsUnder wanted ++ textsUnderOfItems wanted rest
termination_by structural items => items

/-- Every text under a key in members. -/
def textsUnderOfMembers (wanted : String) : List (String × Json) → List String
  | [] => []
  | (key, value) :: rest =>
    textOf wanted key value ++ value.textsUnder wanted ++ textsUnderOfMembers wanted rest
termination_by structural members => members

end

/-- Every reference of a document. -/
def everyReference (json : Json) : List String := json.textsUnder "$ref"

/-- Every identifier that a document gives to itself or to a part. -/
def everyIdentifier (json : Json) : List String := json.textsUnder "$id"

section

variable {wanted text : String}

/-- A list of documents has the texts of its items. -/
theorem mem_textsUnderOfItems {items : List Json} :
    text ∈ textsUnderOfItems wanted items ↔ ∃ item ∈ items, text ∈ item.textsUnder wanted := by
  induction items with
  | nil => simp [textsUnderOfItems]
  | cons item rest ih => simp [textsUnderOfItems, ih]

/-- Members have the texts that they are and those of their values. -/
theorem mem_textsUnderOfMembers {members : List (String × Json)} :
    text ∈ textsUnderOfMembers wanted members ↔
      ∃ member ∈ members, text ∈ textOf wanted member.1 member.2 ∨
        text ∈ member.2.textsUnder wanted := by
  induction members with
  | nil => simp [textsUnderOfMembers]
  | cons member rest ih => simp [textsUnderOfMembers, ih, or_assoc]

/-! ### Parts -/

/-- Parts of a document have no other texts under a key. -/
theorem isInherited_textsUnder (wanted : String) (texts : List String) :
    IsInherited fun value => value.textsUnder wanted ⊆ texts where
  item value inside item listed := by
    cases value with
    | array items =>
      exact fun _ held => inside (mem_textsUnderOfItems.2 ⟨item, listed, held⟩)
    | null | bool | number | string | object => cases listed
  member value inside member listed := by
    cases value with
    | object members =>
      exact fun _ held => inside (mem_textsUnderOfMembers.2 ⟨member, listed, .inr held⟩)
    | null | bool | number | string | array => cases listed

/-- A place in a document has no other texts under a key than the document. -/
theorem textsUnder_atPlace? {place : String} {json value : Json}
    (found : json.atPlace? place = some value) :
    value.textsUnder wanted ⊆ json.textsUnder wanted :=
  (isInherited_textsUnder wanted _).atPlace? (List.Subset.refl _) found

/-- A dotted path leads to no other texts under a key. -/
theorem textsUnder_atPath? {path : String} {json value : Json}
    (found : json.atPath? path = some value) :
    value.textsUnder wanted ⊆ json.textsUnder wanted :=
  (isInherited_textsUnder wanted _).atPath? (List.Subset.refl _) found

/-- Closing a schema adds no texts under a key. -/
theorem textsUnder_close (sink : Sink) (schema : Json) :
    (sink.close schema).textsUnder wanted ⊆ schema.textsUnder wanted := by
  cases schema with
  | object fields =>
    rcases sink.close_cases fields with same | ⟨-, -, -, before, after, rfl, closed⟩
    · rw [same]
      exact fun _ inside => inside
    · rw [closed]
      intro text inside
      obtain ⟨member, listed, held⟩ := mem_textsUnderOfMembers.1 inside
      refine mem_textsUnderOfMembers.2 ⟨member, ?_, held⟩
      rcases List.mem_append.1 listed with listed | listed
      · exact List.mem_append_left _ listed
      · rcases List.mem_cons.1 listed with rfl | listed
        · have none : text ∉ textOf wanted "additionalProperties" (.bool false) := by
            simp [textOf, asString?]
          rcases held with held | held
          · exact absurd held none
          · cases held
        · exact List.mem_append_right _ listed
  | null | bool | number | string | array => exact fun _ inside => inside

end

/-! ### References that schemas see -/

/-- The reference of a schema is one of its members. -/
theorem reference_subset (members : List (String × Json)) :
    ((object members).get? "$ref").toList.filterMap asString? ⊆
      textsUnderOfMembers "$ref" members := by
  intro reference listed
  obtain ⟨value, inside, text⟩ := List.mem_filterMap.1 listed
  obtain ⟨before, after, rfl, -⟩ := List.lookup_eq_some_iff.1 (Option.mem_toList.1 inside)
  refine mem_textsUnderOfMembers.2 ⟨("$ref", value), by simp, .inl ?_⟩
  simp [textOf, text]

mutual

/-- The references that a schema sees are references of its document. -/
theorem references_subset : ∀ json : Json, json.references ⊆ json.everyReference
  | null | bool _ | number _ | string _ => by simp [references]
  | array items => referencesInItems_subset items
  | object members =>
    List.append_subset.2 ⟨reference_subset members, referencesInKeywords_subset members⟩
termination_by structural json => json

/-- The references that a list of schemas sees are references of its documents. -/
theorem referencesInItems_subset : ∀ items : List Json,
    referencesInItems items ⊆ textsUnderOfItems "$ref" items
  | [] => by simp [referencesInItems]
  | item :: rest => by
    have first := references_subset item
    have others := referencesInItems_subset rest
    rw [referencesInItems, textsUnderOfItems]
    exact List.append_subset.2 ⟨List.subset_append_of_subset_left _ first,
      List.subset_append_of_subset_right _ others⟩
termination_by structural items => items

/-- The references that keywords see are references of their members. -/
theorem referencesInKeywords_subset : ∀ members : List (String × Json),
    referencesInKeywords members ⊆ textsUnderOfMembers "$ref" members
  | [] => by simp [referencesInKeywords]
  | (key, value) :: rest => by
    have whole := references_subset value
    have map := referencesInMap_subset value
    have others := referencesInKeywords_subset rest
    rw [referencesInKeywords, textsUnderOfMembers]
    refine List.append_subset.2 ⟨?_, List.subset_append_of_subset_right _ others⟩
    refine List.subset_append_of_subset_left _ (List.subset_append_of_subset_right _ ?_)
    split
    · exact whole
    · split
      · exact map
      · exact List.nil_subset _
termination_by structural members => members

/-- The references that an object of schemas sees are references of its document. -/
theorem referencesInMap_subset : ∀ json : Json, json.referencesInMap ⊆ json.everyReference
  | null | bool _ | number _ | string _ | array _ => by simp [referencesInMap]
  | object members => referencesInValues_subset members
termination_by structural json => json

/-- The references that the values of members see are references of these members. -/
theorem referencesInValues_subset : ∀ members : List (String × Json),
    referencesInValues members ⊆ textsUnderOfMembers "$ref" members
  | [] => by simp [referencesInValues]
  | (key, value) :: rest => by
    have first := references_subset value
    have others := referencesInValues_subset rest
    rw [referencesInValues, textsUnderOfMembers]
    refine List.append_subset.2 ⟨?_, List.subset_append_of_subset_right _ others⟩
    exact List.subset_append_of_subset_left _ (List.subset_append_of_subset_right _ first)
termination_by structural members => members

end

end GatewayCheck.Json
