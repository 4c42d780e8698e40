import GatewayCheck.Library
import GatewayCheck.Proofs.Json.Stable
import GatewayCheck.Proofs.Schema.ProperForm
import GatewayCheck.Proofs.Schema.Reference

/-!
The form of the packaged schemas. They refer to a few places in the document of their own release,
and each of them is in the proper form. The documents are regular, so their texts spell them.
-/
namespace GatewayCheck

open Schema

namespace Schema.Format

/-- A character that stands for itself on both sides of the number sign of an address. -/
def isOrdinary (character : Char) : Bool :=
  (character.isAlphanum || addressMarks.contains character) && character != '#' &&
    character != '%'

/-- An ordinary character is no number sign. -/
theorem ne_of_isOrdinary {character : Char} (ordinary : isOrdinary character = true) :
    character ≠ '#' := by
  intro same
  simp [isOrdinary, same] at ordinary

/-- A text of ordinary characters and number signs can stand in an address. -/
theorem isAddressText_of_ordinary {characters : List Char}
    (plain : ∀ character ∈ characters, isOrdinary character = true ∨ character = '#') :
    isAddressText characters = true := by
  induction characters with
  | nil => rfl
  | cons first rest ih =>
    have later := ih fun character listed => plain character (List.mem_cons_of_mem _ listed)
    have allowed : (first.isAlphanum || addressMarks.contains first) = true ∧ first ≠ '%' := by
      rcases plain first List.mem_cons_self with ordinary | rfl
      · simp only [isOrdinary, Bool.and_eq_true, bne_iff_ne] at ordinary
        exact ⟨ordinary.1.1, ordinary.2⟩
      · exact ⟨by decide, by decide⟩
    rw [isAddressText, allowed.1, later]
    · rfl
    · exact fun _ _ _ same => absurd same allowed.2

end Schema.Format

namespace Packaged

/-- The places in the document of a release that schemas refer to. -/
def places : List String :=
  ["/definitions/desc_def", "/definitions/host_def", "/definitions/id_schema",
    "/definitions/ip_def", "/definitions/labels_def", "/definitions/name_def",
    "/definitions/plugins_def", "/definitions/port_def", "/definitions/timeout_def",
    "/definitions/timestamp_def", "/definitions/upstream_nodes", "/main/upstream"]

/-- Places consist of ordinary characters. -/
theorem places_ordinary : ∀ place ∈ places, place.toList.all Format.isOrdinary = true := by
  simp only [places, List.forall_mem_cons]
  exact ⟨rfl, rfl, rfl, rfl, rfl, rfl, rfl, rfl, rfl, rfl, rfl, rfl, by simp⟩

/-- Texts of admitted characters form such a text together. -/
theorem all_append {first second : String} {admitted : Char → Bool}
    (before : first.toList.all admitted = true) (after : second.toList.all admitted = true) :
    (first ++ second).toList.all admitted = true := by
  rw [String.toList_append, List.all_append, before, after]
  rfl

/-- Addresses of releases consist of ordinary characters. -/
theorem address_ordinary (release : Release) :
    release.address.toList.all Format.isOrdinary = true := by
  have named : release.name.toList.all Format.isOrdinary = true := by
    cases release <;> rfl
  exact all_append (all_append rfl named) rfl

/-- A text of ordinary characters has no number sign. -/
theorem unmarked_of_ordinary {text : String} (ordinary : text.toList.all Format.isOrdinary = true) :
    '#' ∉ text.toList :=
  fun inside => Format.ne_of_isOrdinary (List.all_eq_true.1 ordinary _ inside) rfl

/-- The address of a release begins with a scheme. -/
theorem address_scheme (release : Release) :
    (Format.scheme? release.address.toList).any Format.isScheme = true := by
  cases release <;> rfl

/-- A place is the text after the number sign of a reference. -/
theorem reference_includes (release : Release) {place : String} (listed : place ∈ places) :
    Format.uriReference.includes (release.address ++ "#" ++ place) = true := by
  have before := address_ordinary release
  have after := places_ordinary place listed
  have written : (release.address ++ "#" ++ place).toList =
      release.address.toList ++ '#' :: place.toList := by
    simp
  have none : release.address.toList.count '#' = 0 :=
    List.count_eq_zero.2 (unmarked_of_ordinary before)
  have once : place.toList.count '#' = 0 := List.count_eq_zero.2 (unmarked_of_ordinary after)
  simp only [Format.includes, written, Bool.and_eq_true, decide_eq_true_eq]
  refine ⟨⟨Format.isAddressText_of_ordinary fun character inside => ?_, ?_⟩, ?_⟩
  · rcases List.mem_append.1 inside with inside | inside
    · exact .inl (List.all_eq_true.1 before character inside)
    · rcases List.mem_cons.1 inside with rfl | inside
      · exact .inr rfl
      · exact .inl (List.all_eq_true.1 after character inside)
  · simp only [List.count_append, List.count_cons_self, none, once, Nat.le_refl]
  · cases release <;> rfl

/-- A reference to a place leads to the document of its release from everywhere. -/
theorem ofReference_place (base : Option String) (release : Release) {place : String}
    (listed : place ∈ places) :
    Target.ofReference base (release.address ++ "#" ++ place) =
      ⟨some release.address, place⟩ :=
  Target.ofReference_absolute base (address_scheme release) (by cases release <;> decide)
    (fun first => unmarked_of_ordinary (address_ordinary release) (List.mem_of_mem_head? first))
    (unmarked_of_ordinary (places_ordinary place listed))

/-! ### Forms -/

/-- Members are in proper form one by one. -/
theorem areFormsOfMembers_append (first second : List (String × Json)) :
    areFormsOfMembers (first ++ second) =
      (areFormsOfMembers first && areFormsOfMembers second) := by
  induction first with
  | nil => rfl
  | cons member rest ih => simp only [List.cons_append, areFormsOfMembers, ih, Bool.and_assoc]

/-- A member that documents have from some release on may be in the proper form in all. -/
theorem areFormsOfMembers_since (first release : Release) {member : String × Json}
    (form : isForm member.2 = true) : areFormsOfMembers (since first release member) = true := by
  rw [since]
  split
  · simp [areFormsOfMembers, form]
  · rfl

/-- A reference to a place is in the proper form. -/
theorem isForm_reference (release : Release) {place : String} (listed : place ∈ places) :
    isForm (reference release place) = true := by
  have address := reference_includes release listed
  simp [isForm, areForms, reference, isPlainForm, Json.asString?, address]

/-- The schema of a kind. -/
def schemaOf (release : Release) : Resource → Json
  | .route => route release
  | .service => service release
  | .upstream => upstream release
  | .ssl => ssl release
  | .consumer => consumer release
  | .consumerGroup => consumerGroup release
  | .pluginConfig => pluginConfig release
  | .globalRule => globalRule release
  | .pluginMetadata => pluginMetadata
  | .streamRoute => streamRoute release

/-- The schema of every kind is in the proper form. -/
theorem isForm_schemaOf (release : Release) (kind : Resource) :
    isForm (schemaOf release kind) = true := by
  -- Only references and the members that some releases lack depend on the release.
  cases kind with
  | route =>
    simp (disch := decide) only [isForm, schemaOf, route, areForms, areFormsOfArray,
      areFormsOfItems, List.isEmpty_cons, Bool.not_false, areFormsOfObject, areFormsOfMembers,
      isForm_reference, Bool.true_and]
    decide +kernel
  | upstream =>
    simp (disch := decide) only [isForm, schemaOf, upstream, areForms, areFormsOfArray,
      areFormsOfItems, List.isEmpty_cons, Bool.not_false, areFormsOfObject, areFormsOfMembers,
      areFormsOfMembers_append, areFormsOfMembers_since, isForm_reference, Bool.true_and]
    decide +kernel
  | streamRoute =>
    simp (disch := first | decide | exact isForm_reference _ (by decide)) only [isForm, schemaOf,
      streamRoute, areForms, areFormsOfArray, areFormsOfItems, List.isEmpty_cons, Bool.not_false,
      areFormsOfObject, areFormsOfMembers, areFormsOfMembers_append, areFormsOfMembers_since,
      isForm_reference, Bool.true_and]
    decide +kernel
  | ssl =>
    simp (disch := decide) only [isForm, schemaOf, ssl, areForms, areFormsOfObject,
      areFormsOfMembers, areFormsOfMembers_append, areFormsOfMembers_since, isForm_reference,
      Bool.true_and]
    decide +kernel
  | service | consumer | consumerGroup | pluginConfig | globalRule =>
    simp (disch := decide) only [isForm, schemaOf, service, consumer, consumerGroup, pluginConfig,
      globalRule, areForms, areFormsOfObject, areFormsOfMembers, isForm_reference, Bool.true_and]
    decide +kernel
  | pluginMetadata =>
    rw [schemaOf]
    decide +kernel

/-- The schemas of hash keys are in the proper form. -/
theorem isForm_keySchemas :
    isForm upstreamHashVarsSchema = true ∧ isForm upstreamHashHeaderSchema = true := by
  decide +kernel

/-- The documents are regular, and nested no deeper than documents that are read. -/
theorem document_isRegular (release : Release) :
    (document release).isRegular = true ∧ (document release).depth ≤ Json.greatestDepth := by
  -- Checked together, since the releases share most of their keys.
  have every : ∀ release ∈ Release.all,
      (document release).isRegular = true ∧ (document release).depth ≤ Json.greatestDepth := by
    decide +kernel
  exact every release release.mem_all

end Packaged

end GatewayCheck
