import GatewayCheck.Proofs.Label
import GatewayCheck.Proofs.Packaged.Closing
import GatewayCheck.Proofs.Packaged.Upstream

/-!
Labels of accepted documents. A field that the schema of a kind declares for naming gives a label
whenever the schema accepts its value, so an accepted document is reported under its own identity
and not under that of a later field.
-/
namespace GatewayCheck

open Schema

namespace Packaged

variable {release : Release} {kind : Resource} {base : Option String} {value document : Json}

/-! ### Values for naming -/

/-- A schema that asks for a text with a character accepts texts that are not empty. -/
theorem filled_accepted {schema : Json} (plain : schema.get? "$ref" = none)
    (accepted : (read base schema).accepts (meaning release) value = true)
    (type : schema.get? "type" = some (.string "string"))
    (least : schema.get? "minLength" = some (.whole 1)) :
    ∃ text, value = .string text ∧ text ≠ "" := by
  have typed : ValueType.string.includes value = true := typed_accepted plain accepted type
  obtain ⟨text, rfl⟩ := ValueType.eq_string typed
  cases schema with
  | object fields =>
    have unreferring : (fields.lookup "$ref").bind Json.asString? = none := by
      rw [show fields.lookup "$ref" = none from plain]
      rfl
    have holds : (Constraint.minLength 1).holds (.string text) = true :=
      limit_holds unreferring accepted least rfl
    have long : 1 ≤ text.length := by simpa [Constraint.holds] using holds
    refine ⟨text, rfl, ?_⟩
    rintro rfl
    exact absurd long (by decide)
  | null | bool | number | string | array => cases type

/-- An accepted name is a text that is not empty. -/
theorem name_accepted
    (accepted : (read base (reference release "/definitions/name_def")).accepts (meaning release)
      value = true) : ∃ text, value = .string text ∧ text ≠ "" := by
  have entry : ("/definitions/name_def", nameDef) ∈ placed release := by simp [placed]
  rw [accepts_reference entry] at accepted
  exact filled_accepted rfl accepted rfl rfl

/-- A label can be taken from every accepted id. -/
theorem id_accepted
    (accepted : (read base (reference release "/definitions/id_schema")).accepts (meaning release)
      value = true) : value.IsNaming := by
  have entry : ("/definitions/id_schema", idSchema) ∈ placed release := by simp [placed]
  rw [accepts_reference entry] at accepted
  obtain ⟨alternative, listed, accepted⟩ := anyOf_accepted rfl accepted rfl
  simp only [List.mem_cons, List.not_mem_nil, or_false] at listed
  rcases listed with rfl | rfl
  · obtain ⟨text, rfl, filled⟩ := filled_accepted rfl accepted rfl rfl
    exact .text filled
  · have typed : ValueType.integer.includes value = true := typed_accepted rfl accepted rfl
    obtain ⟨number, rfl⟩ := ValueType.eq_number typed
    exact .number number

/-! ### Declared fields -/

/-- The schema that the schema of a kind declares for a field. -/
def declared? (release : Release) (kind : Resource) (field : String) : Option Json :=
  ((schemaOf release kind).get? "properties").bind (Json.get? field)

/-- The kinds that declare a name. -/
def namedKinds : List Resource := [.route, .service, .upstream]

/-- Every kind that declares an id declares the common one. -/
theorem declared?_id {schema : Json} (declares : declared? release kind "id" = some schema) :
    schema = reference release "/definitions/id_schema" := by
  cases kind with
  | route | service | upstream | ssl | consumerGroup | pluginConfig | globalRule | streamRoute =>
    exact (Option.some.inj declares).symm
  | consumer | pluginMetadata => cases declares

/-- The kinds that declare a name declare the common one. -/
theorem declared?_name (listed : kind ∈ namedKinds) :
    declared? release kind "name" = some (reference release "/definitions/name_def") := by
  simp only [namedKinds, List.mem_cons, List.not_mem_nil, or_false] at listed
  rcases listed with rfl | rfl | rfl <;> rfl

/-- A field that an accepted document has is accepted by the schema that is declared for it. -/
theorem field_accepted {schema : Json} {field : String}
    (accepted : (read base (schemaOf release kind)).accepts (meaning release) document = true)
    (declares : declared? release kind field = some schema)
    (held : document.get? field = some value) :
    (read base schema).accepts (meaning release) value = true :=
  member_accepted (schemaOf_isOpen release kind).plain accepted declares held

/-- A consumer whose keys are declared lacks the fields that are not. -/
theorem get?_of_undeclared {field : String}
    (declares : DeclaresKeys (schemaOf release .consumer) document)
    (undeclared : declared? release .consumer field = none) : document.get? field = none := by
  cases held : document.get? field with
  | none => rfl
  | some value =>
    obtain ⟨before, after, split, -⟩ := List.lookup_eq_some_iff.1 held
    have known := declares _ rfl (field, value) (by simp [split])
    rw [show (Json.get? field _) = none from undeclared] at known
    cases known

/-! ### Identity -/

/-- A document with an id is labelled by it, if the schema of its kind accepts the document and
declares ids. -/
theorem labelled_by_id
    (accepted : (read base (schemaOf release kind)).accepts (meaning release) document = true)
    (declares : declared? release kind "id" ≠ none) (present : document.get? "id" ≠ none) :
    document.Names "id" document.label := by
  obtain ⟨schema, declares⟩ := Option.ne_none_iff_exists'.1 declares
  obtain ⟨value, held⟩ := Option.ne_none_iff_exists'.1 present
  obtain rfl := declared?_id declares
  have naming := id_accepted (field_accepted accepted declares held)
  have order : ["id", "name", "username"] = [] ++ "id" :: ["name", "username"] := rfl
  exact Json.names_label order (by simp) held naming

/-- A document without an id is labelled by its name, if the schema of a kind with names accepts
the document. -/
theorem labelled_by_name (listed : kind ∈ namedKinds)
    (accepted : (read base (schemaOf release kind)).accepts (meaning release) document = true)
    (absent : document.get? "id" = none) (present : document.get? "name" ≠ none) :
    document.BearsText "name" := by
  obtain ⟨value, held⟩ := Option.ne_none_iff_exists'.1 present
  obtain ⟨text, rfl, filled⟩ :=
    name_accepted (field_accepted accepted (declared?_name listed) held)
  have order : ["id", "name", "username"] = ["id"] ++ "name" :: ["username"] := rfl
  exact Json.bearsText_of_held order (by simpa using absent) held filled

/-- A consumer whose keys are declared is labelled by its username, if the schema of consumers
accepts it. -/
theorem labelled_by_username
    (accepted : (read base (schemaOf release .consumer)).accepts (meaning release) document = true)
    (declares : DeclaresKeys (schemaOf release .consumer) document) :
    document.BearsText "username" := by
  have typed : ValueType.object.includes document = true := typed_accepted rfl accepted rfl
  obtain ⟨members, rfl⟩ := ValueType.eq_object typed
  have required : "username" ∈ ["username"] := by decide
  obtain ⟨value, held⟩ := required_accepted rfl accepted rfl required
  obtain ⟨text, rfl, filled⟩ :=
    filled_accepted rfl (field_accepted accepted rfl held) rfl rfl
  -- consumers declare neither ids nor names, so the strict sink refuses both
  have absent : ∀ earlier ∈ ["id", "name"], (Json.object members).get? earlier = none := by
    rw [List.forall_mem_cons, List.forall_mem_singleton]
    exact ⟨get?_of_undeclared declares rfl, get?_of_undeclared declares rfl⟩
  exact Json.bearsText_of_held rfl absent held filled

/-- A document is reported under its own identity: under an id that its kind declares, else under a
name that its kind declares, and for the strict sink a consumer is reported under its username. -/
structure IsIdentified (release : Release) (kind : Resource) (sink : Sink) (document : Json) :
    Prop where
  id : declared? release kind "id" ≠ none → document.get? "id" ≠ none →
    document.Names "id" document.label ∧ document.label ≠ ""
  name : kind ∈ namedKinds → document.get? "id" = none → document.get? "name" ≠ none →
    document.BearsText "name"
  username : kind = .consumer → sink = .runtime → document.BearsText "username"

/-- Every document that a packaged checker accepts is reported under its own identity, for every
release, kind and sink. -/
theorem accepted_documents_are_identified (release : Release) (kind : Resource)
    (limit : ReportLimit) (sink : Sink) :
    ∃ registry checker, Registry.build Library.packaged = .ok registry ∧
      Checker.make registry release kind kind.path limit sink = .ok checker ∧
        Library.packaged.fragment release kind.path = .ok (schemaOf release kind) ∧
        ∀ document, checker.check document = .ok () → IsIdentified release kind sink document := by
  obtain ⟨registry, built⟩ := exists_build
  obtain ⟨checker, made, -, -, structured⟩ := make_kind built release kind limit sink
  refine ⟨registry, checker, built, made, fragment_schemaOf release kind, ?_⟩
  intro document passed
  have right := (structured document).1 (Checker.check_eq_ok.1 passed).1
  obtain ⟨accepted, declares⟩ := (accepts_close (schemaOf_isOpen release kind) sink).1 right
  constructor
  · intro declared present
    have names := labelled_by_id accepted declared present
    exact ⟨names, names.filled⟩
  · intro listed absent present
    exact labelled_by_name listed accepted absent present
  · rintro rfl rfl
    exact labelled_by_username accepted (declares rfl)

/-- A consumer with a user and a group. -/
def groupedConsumer : Json :=
  .object [("group_id", .string "staff"), ("username", .string "jack")]

/-- The strict sink accepts the consumer, which is reported under its username. -/
theorem grouped_consumer_is_identified : ∃ checker : Checker,
    checker.check groupedConsumer = .ok () ∧
      IsIdentified .v3_13 .consumer .runtime groupedConsumer := by
  obtain ⟨registry, checker, built, made, -, identified⟩ :=
    accepted_documents_are_identified .v3_13 .consumer .fallback .runtime
  obtain ⟨other, again, own, -, structured⟩ := make_kind built .v3_13 .consumer .fallback .runtime
  obtain rfl := Except.ok.inj (again.symm.trans made)
  have right : other.checkStructure groupedConsumer = .ok () :=
    (structured groupedConsumer).2 (by decide +kernel)
  have passed : other.check groupedConsumer = .ok () := by
    rw [Checker.check_of_structure right, own]
    rfl
  exact ⟨other, passed, identified groupedConsumer passed⟩

end Packaged

end GatewayCheck
