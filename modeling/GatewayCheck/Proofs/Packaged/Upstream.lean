import GatewayCheck.Proofs.Packaged.Linking
import GatewayCheck.Proofs.Upstream

/-!
The packaged schema of upstreams. What it accepts has the shape that the reader of upstreams asks
for, in every release and from every document that refers to it.
-/
namespace GatewayCheck

open Schema

namespace Schema.ValueType

/-- A value of the type of texts is a text. -/
theorem eq_string {value : Json} (typed : string.includes value = true) :
    ∃ text, value = .string text := by
  cases value with
  | string text => exact ⟨text, rfl⟩
  | null | bool | number | array | object => cases typed

/-- A value of the type of objects is an object. -/
theorem eq_object {value : Json} (typed : object.includes value = true) :
    ∃ members, value = .object members := by
  cases value with
  | object members => exact ⟨members, rfl⟩
  | null | bool | number | string | array => cases typed

/-- A value of the type of arrays is an array. -/
theorem eq_array {value : Json} (typed : array.includes value = true) :
    ∃ items, value = .array items := by
  cases value with
  | array items => exact ⟨items, rfl⟩
  | null | bool | number | string | object => cases typed

/-- A value of the type of whole numbers is a number. -/
theorem eq_number {value : Json} (typed : integer.includes value = true) :
    ∃ number, value = .number number := by
  cases value with
  | number number => exact ⟨number, rfl⟩
  | null | bool | string | array | object => cases typed

end Schema.ValueType

namespace Packaged

variable {release : Release} {base : Option String} {value : Json}

/-- A reference to a place accepts what the schema that stands there accepts. -/
theorem accepts_reference {place : String} {schema : Json}
    (entry : (place, schema) ∈ placed release) (base : Option String) (value : Json) :
    (read base (reference release place)).accepts (meaning release) value =
      (read (some release.address) schema).accepts (meaning release) value := by
  have listed : place ∈ places := placed_places release ▸ List.mem_map_of_mem entry
  rw [reference, Schema.accepts_reference rfl, ofReference_place base release listed,
    meaning_placed release entry]

/-- A host is a text. -/
theorem host_accepted
    (accepted : (read base (reference release "/definitions/host_def")).accepts (meaning release)
      value = true) : ∃ text, value = .string text := by
  have entry : ("/definitions/host_def", hostDef) ∈ placed release := by simp [placed]
  rw [accepts_reference entry] at accepted
  have typed : ValueType.string.includes value = true := typed_accepted rfl accepted rfl
  exact ValueType.eq_string typed

/-- A port is a number. -/
theorem port_accepted
    (accepted : (read base (reference release "/definitions/port_def")).accepts (meaning release)
      value = true) : ∃ number, value = .number number := by
  have entry : ("/definitions/port_def", portDef) ∈ placed release := by simp [placed]
  rw [accepts_reference entry] at accepted
  have typed : ValueType.integer.includes value = true := typed_accepted rfl accepted rfl
  exact ValueType.eq_number typed

/-! ### Nodes -/

/-- The schema of one listed node. -/
def listedNode (release : Release) : Json :=
  .object [
    ("properties", .object (
      [
        ("host", reference release "/definitions/host_def")] ++
      since .v3_13 release ("metadata", .object [("type", .string "object")]) ++
      [
        ("port", reference release "/definitions/port_def"),
        ("priority", .object [("default", .whole 0), ("type", .string "integer")]),
        ("weight", .object [("minimum", .whole 0), ("type", .string "integer")])])),
    ("required", .texts ["host", "weight"]),
    ("type", .string "object")]

/-- A listed node that is accepted can be read. -/
theorem listedNode_accepted
    (accepted : (read base (listedNode release)).accepts (meaning release) value = true) :
    (Json.readNode? value).isSome := by
  have typed : ValueType.object.includes value = true := typed_accepted rfl accepted rfl
  obtain ⟨members, rfl⟩ := ValueType.eq_object typed
  have declared (name : String) (schema : Json)
      (found : ((listedNode release).get? "properties").bind (Json.get? name) = some schema)
      (item : Json) (member : (Json.object members).get? name = some item) :
      (read base schema).accepts (meaning release) item = true :=
    member_accepted rfl accepted found member
  have integer (name : String) (schema : Json)
      (found : ((listedNode release).get? "properties").bind (Json.get? name) = some schema)
      (plain : schema.get? "$ref" = none)
      (type : schema.get? "type" = some (.string "integer")) :
      ∀ item, (Json.object members).get? name = some item → ∃ number, item = .number number := by
    intro item member
    have typed : ValueType.integer.includes item = true :=
      typed_accepted plain (declared name schema found item member) type
    exact ValueType.eq_number typed
  have required : "host" ∈ ["host", "weight"] := by decide
  obtain ⟨item, present⟩ := required_accepted rfl accepted rfl required
  obtain ⟨host, rfl⟩ := host_accepted (declared "host" _ rfl item present)
  refine Json.readNode?_isSome present ?_
  simp only [List.forall_mem_cons]
  refine ⟨fun item member => ?_, ?_, ?_, by simp⟩
  · exact port_accepted (declared "port" _ (by cases release <;> rfl) item member)
  · exact integer "weight" _ (by cases release <;> rfl) rfl rfl
  · exact integer "priority" _ (by cases release <;> rfl) rfl rfl

/-- Accepted nodes are an object or a list of nodes that can be read. -/
theorem nodes_accepted
    (accepted : (read base (reference release "/definitions/upstream_nodes")).accepts
      (meaning release) value = true) :
    (∃ weights, value = .object weights) ∨
      ∃ items, value = .array items ∧ ∀ node ∈ items, (Json.readNode? node).isSome := by
  have entry : ("/definitions/upstream_nodes", upstreamNodes release) ∈ placed release := by
    simp [placed]
  rw [accepts_reference entry] at accepted
  obtain ⟨alternative, listed, accepted⟩ := anyOf_accepted rfl accepted rfl
  simp only [List.mem_cons, List.not_mem_nil, or_false] at listed
  rcases listed with rfl | rfl
  · have typed : ValueType.array.includes value = true := typed_accepted rfl accepted rfl
    obtain ⟨items, rfl⟩ := ValueType.eq_array typed
    have each := items_accepted rfl accepted rfl
    exact .inr ⟨items, rfl, fun node listed => listedNode_accepted (each node listed)⟩
  · have typed : ValueType.object.includes value = true := typed_accepted rfl accepted rfl
    exact .inl (ValueType.eq_object typed)

/-! ### The whole upstream -/

/-- A value that is the same as a text is this text. -/
theorem eq_of_same {text : String} (same : value.same (.string text) = true) :
    value = .string text := by
  cases value with
  | string other =>
    have equal : other = text := by simpa [Json.same] using same
    rw [equal]
  | null | bool | number | array | object => cases same

/-- An accepted upstream has the shape that its reader asks for. -/
theorem upstream_isShaped
    (accepted : (read base (upstream release)).accepts (meaning release) value = true) :
    Upstream.IsShaped value := by
  have typed : ValueType.object.includes value = true := typed_accepted rfl accepted rfl
  have declared (name : String) (schema : Json)
      (found : ((upstream release).get? "properties").bind (Json.get? name) = some schema)
      (item : Json) (member : value.get? name = some item) :
      (read base schema).accepts (meaning release) item = true :=
    member_accepted rfl accepted found member
  have text (name : String) (schema : Json)
      (found : ((upstream release).get? "properties").bind (Json.get? name) = some schema)
      (plain : schema.get? "$ref" = none)
      (type : schema.get? "type" = some (.string "string")) :
      ∀ item, value.get? name = some item → ∃ text, item = .string text := by
    intro item member
    have typed : ValueType.string.includes item = true :=
      typed_accepted plain (declared name schema found item member) type
    exact ValueType.eq_string typed
  refine ⟨ValueType.eq_object typed, ?_, fun item member => ?_⟩
  · simp only [Upstream.textFields, List.forall_mem_cons]
    refine ⟨text "type" _ rfl rfl rfl, text "hash_on" _ rfl rfl rfl, text "key" _ rfl rfl rfl,
      text "pass_host" _ rfl rfl rfl, fun item member => ?_, text "service_name" _ rfl rfl rfl,
      by simp⟩
    exact host_accepted (declared "upstream_host" _ rfl item member)
  · exact nodes_accepted (declared "nodes" _ rfl item member)

/-- The host policy of an accepted upstream is one of three. -/
theorem hostPolicy_accepted
    (accepted : (read base (upstream release)).accepts (meaning release) value = true) {item : Json}
    (member : value.get? "pass_host" = some item) :
    ∃ name ∈ ["pass", "node", "rewrite"], item = .string name := by
  have declared : (read base (.object [("default", .string "pass"),
      ("enum", .texts ["pass", "node", "rewrite"]), ("type", .string "string")])).accepts
        (meaning release) item = true := member_accepted rfl accepted rfl member
  obtain ⟨allowed, listed, same⟩ := enum_accepted rfl declared rfl
  obtain ⟨name, inside, rfl⟩ := List.mem_map.1 listed
  exact ⟨name, inside, eq_of_same same⟩

end Packaged

end GatewayCheck
