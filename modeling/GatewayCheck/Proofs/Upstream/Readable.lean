import GatewayCheck.Proofs.Rule.Relevance
import GatewayCheck.Proofs.Rule.Setting

/-!
What is read as an upstream. The form that is meant is an object, whose nodes are objects too when
they are listed. The reader takes the array of its fields for each of these objects as well, and
nothing else; the rules refuse what it does not read where it stands.
-/
namespace GatewayCheck

namespace Json

variable {json : Json} {isNode other : Json → Prop} {left right : List (String × Json)}

/-- An array stands for an object, be it the document or one of the nodes that it lists. -/
def IsPositional (json : Json) : Prop :=
  (∃ items, json = .array items) ∨
    ∃ items fields, json.get? "nodes" = some (.array items) ∧ .array fields ∈ items

/-! ### Forms of upstreams -/

/-- Nodes of one kind are nodes of another when the listed ones are. -/
theorem IsNodesOrNull.imp
    (each : ∀ items, json = .array items → ∀ item ∈ items, isNode item → other item)
    (nodes : json.IsNodesOrNull isNode) : json.IsNodesOrNull other := by
  rcases nodes with missing | weighted | ⟨items, same, listed⟩
  · exact .inl missing
  · exact .inr (.inl weighted)
  · exact .inr (.inr ⟨items, same, fun item inside => each items same item inside
      (listed item inside)⟩)

/-- A value other than null is that of a member. -/
theorem get?_of_getOrNull {key : String} {value : Json} (found : getOrNull key json = value)
    (present : value ≠ null) : json.get? key = some value := by
  rw [getOrNull] at found
  cases held : json.get? key with
  | none =>
    rw [held] at found
    exact absurd found.symm present
  | some item =>
    rw [held] at found
    exact congrArg some found

/-- The form that is meant is read. -/
theorem IsUpstreamObject.isUpstream (documented : json.IsUpstreamObject IsNodeObject) :
    json.IsUpstream := by
  obtain ⟨members, same, nodes, texts⟩ := documented
  exact .inl ⟨members, same, nodes.imp fun _ _ _ _ => .inl, texts⟩

/-- Where no array stands for an object, the form that is meant is all that is read. -/
theorem isUpstream_iff (named : ¬json.IsPositional) :
    json.IsUpstream ↔ json.IsUpstreamObject IsNodeObject := by
  refine ⟨?_, IsUpstreamObject.isUpstream⟩
  rintro (⟨members, same, nodes, texts⟩ | ⟨items, same, -⟩)
  · refine ⟨members, same, nodes.imp fun items listed item inside form => ?_, texts⟩
    rcases form with form | ⟨fields, rfl, -⟩
    · exact form
    · have found := get?_of_getOrNull listed nofun
      exact absurd (.inr ⟨items, fields, found, inside⟩) named
  · exact absurd (.inl ⟨items, same⟩) named

/-- Where an array stands for an object, the form is not the one that is meant. -/
theorem IsPositional.not_documented (positional : json.IsPositional) :
    ¬json.IsUpstreamObject IsNodeObject := by
  rintro ⟨members, same, nodes, -⟩
  rcases positional with ⟨items, rfl⟩ | ⟨items, fields, found, inside⟩
  · cases same
  · rw [getOrNull, found] at nodes
    rcases nodes with missing | ⟨weights, weighted⟩ | ⟨listed, same, each⟩
    · cases missing
    · cases weighted
    · cases same
      obtain ⟨members, same, -⟩ := each _ inside
      cases same

/-- The form that is meant is exactly what is read, unless an array stands for an object in what is
read. -/
theorem isUpstream_iff_documented :
    (json.IsUpstream ↔ json.IsUpstreamObject IsNodeObject) ↔
      ¬(json.IsPositional ∧ json.IsUpstream) := by
  constructor
  · rintro same ⟨positional, readable⟩
    exact positional.not_documented (same.1 readable)
  · intro apart
    by_cases positional : json.IsPositional
    · exact iff_of_false (fun readable => apart ⟨positional, readable⟩) positional.not_documented
    · exact isUpstream_iff positional

/-- What is no upstream in either form is refused for some reason. -/
theorem exists_readUpstream_error : (∃ error, json.readUpstream = .error error) ↔
    ¬json.IsUpstream := by
  rw [← exists_readUpstream]
  cases json.readUpstream <;> simp

/-- Objects that agree on the fields of nodes are read alike. -/
theorem readNode?_of_agreeOn (agree : AgreeOn Node.fields (object left) (object right)) :
    readNode? (object left) = readNode? (object right) := by
  simp only [AgreeOn, Node.fields, List.forall_mem_cons] at agree
  obtain ⟨host, port, weight, priority, -⟩ := agree
  simp only [readNode?, getOrNull, host, port, weight, priority]

end Json

/-! ### The rules -/

namespace Rule

variable {setting : Setting} {document item : Json} {rule : Rule} {place : UpstreamPlace}

/-- A rule on an upstream that cannot be read refuses the value at its place. -/
theorem check_of_unreadable (looks : rule = .hashKey place ∨ rule = .topology place)
    (found : place.value? document = some item) (unreadable : ¬item.IsUpstream) :
    ∃ error, rule.check setting document = .error (.structural (.shape place.steps error) []) := by
  obtain ⟨error, failed⟩ := Json.exists_readUpstream_error.2 unreadable
  have unread := read_eq_error.2 ⟨item, error, found, failed, rfl⟩
  refine ⟨error, ?_⟩
  rcases looks with rfl | rfl
  · rw [check, checkUpstream, unread]
    rfl
  · rw [check, checkUpstream, unread]
    rfl

/-- A rule on an upstream that can be read does not refuse the structure of the document. -/
theorem check_of_readable (looks : rule = .hashKey place ∨ rule = .topology place)
    (found : place.value? document = some item) (readable : item.IsUpstream) (first : Detail)
    (others : List Detail) : rule.check setting document ≠ .error (.structural first others) := by
  intro failed
  obtain ⟨upstream, read⟩ := Json.exists_readUpstream.2 readable
  rcases grounds_of_check looks failed with unread | ⟨_, failure, -, -, same⟩
  · obtain ⟨other, error, own, unreadable, -⟩ := read_eq_error.1 unread
    obtain rfl := Option.some.inj (found.symm.trans own)
    cases read.symm.trans unreadable
  · cases failure <;> cases same

/-- A rule on an upstream refuses the structure at its place exactly when the upstream there cannot
be read. -/
theorem structural_iff_unreadable (looks : rule = .hashKey place ∨ rule = .topology place)
    (found : place.value? document = some item) :
    (∃ detail, rule.check setting document = .error (.structural detail []) ∧
      detail.instancePath = Json.pointer place.steps) ↔ ¬item.IsUpstream := by
  constructor
  · rintro ⟨detail, failed, -⟩ readable
    exact check_of_readable looks found readable detail [] failed
  · intro unreadable
    obtain ⟨error, failed⟩ := check_of_unreadable looks found unreadable
    exact ⟨_, failed, rfl⟩

end Rule

namespace Upstream

/-- The reader takes the form that is meant, and it takes no other value unless an array stands for
an object there. It looks at no other keys, of the upstream or of a node. The rules refuse what it
does not take, at its place. -/
theorem readable_forms (setting : Rule.Setting) (json : Json) :
    ((∃ upstream, json.readUpstream = .ok upstream) ↔ json.IsUpstream) ∧
    (json.IsUpstreamObject Json.IsNodeObject → json.IsUpstream) ∧
    ((json.IsUpstream ↔ json.IsUpstreamObject Json.IsNodeObject) ↔
      ¬(json.IsPositional ∧ json.IsUpstream)) ∧
    (∀ left right, json = .object left → Json.AgreeOn fields json (.object right) →
      json.readUpstream = (Json.object right).readUpstream) ∧
    (∀ left right, json = .object left → Json.AgreeOn Node.fields json (.object right) →
      json.readNode? = (Json.object right).readNode?) ∧
    (∀ document : Json, document.get? "upstream" = some json → json ≠ .null →
      ∀ rule ∈ [Rule.hashKey (.field "upstream"), .topology (.field "upstream")],
        (∃ detail, rule.check setting document = .error (.structural detail []) ∧
          detail.instancePath = "/upstream") ↔ ¬json.IsUpstream) ∧
    ∀ rule ∈ Resource.upstream.rules,
      (∃ detail, rule.check setting json = .error (.structural detail []) ∧
        detail.instancePath = "") ↔ ¬json.IsUpstream := by
  refine ⟨Json.exists_readUpstream, Json.IsUpstreamObject.isUpstream,
    Json.isUpstream_iff_documented, ?_, ?_, ?_, ?_⟩
  · rintro left right rfl agree
    exact Json.readUpstream_of_agreeOn agree
  · rintro left right rfl agree
    exact Json.readNode?_of_agreeOn agree
  · intro document held present rule listed
    have looks : rule = .hashKey (.field "upstream") ∨ rule = .topology (.field "upstream") := by
      simpa using listed
    exact Rule.structural_iff_unreadable looks (UpstreamPlace.value?_field held present)
  · intro rule listed
    have looks : rule = .hashKey .document ∨ rule = .topology .document := by
      simpa [Resource.rules] using listed
    exact Rule.structural_iff_unreadable looks rfl

/-- The rules refuse an upstream that is a text and one with a node that has no host, where they
stand. They also refuse a document for its source of the hash, as a whole. -/
theorem unreadable_upstreams : ∃ setting : Rule.Setting,
    (∀ item ∈ [Json.string "shop",
        .object [("nodes", .array [.object [("port", .whole 80)]])]],
      ∀ rule ∈ [Rule.hashKey (.field "upstream"), .topology (.field "upstream")],
        ∃ detail, rule.check setting (.object [("upstream", item)]) =
          .error (.structural detail []) ∧ detail.instancePath = "/upstream") ∧
    ∀ rule ∈ Resource.upstream.rules,
      ∃ detail, rule.check setting (.object [("hash_on", .whole 1)]) =
        .error (.structural detail []) ∧ detail.instancePath = "" := by
  obtain ⟨registry, -⟩ := Packaged.exists_build
  let setting : Rule.Setting := ⟨registry, .v3_13⟩
  refine ⟨setting, ?_, ?_⟩
  · intro item listed rule ruled
    obtain ⟨-, -, -, -, -, inline, -⟩ := readable_forms setting item
    have held : (Json.object [("upstream", item)]).get? "upstream" = some item := rfl
    simp only [List.mem_cons, List.not_mem_nil, or_false] at listed
    rcases listed with rfl | rfl
    · exact (inline _ held nofun rule ruled).2 (Json.exists_readUpstream_error.1 ⟨_, rfl⟩)
    · exact (inline _ held nofun rule ruled).2 (Json.exists_readUpstream_error.1 ⟨_, rfl⟩)
  · intro rule listed
    obtain ⟨-, -, -, -, -, -, whole⟩ := readable_forms setting (.object [("hash_on", .whole 1)])
    exact (whole rule listed).2 (Json.exists_readUpstream_error.1 ⟨_, rfl⟩)

/-- The reader takes an empty array for an upstream, so the rules pass on it, and an array for a
listed node, although neither is in the form that is meant. -/
theorem arrays_are_read :
    ((∃ upstream, (Json.array []).readUpstream = .ok upstream) ∧
      ¬(Json.array []).IsUpstreamObject Json.IsNodeObject) ∧
    ((∃ upstream, (Json.object [("nodes", .array [.array [.string "shop"]])]).readUpstream =
        .ok upstream) ∧
      ¬(Json.object [("nodes", .array [.array [.string "shop"]])]).IsUpstreamObject
        Json.IsNodeObject) ∧
    ∀ (setting : Rule.Setting),
      ∀ rule ∈ [Rule.hashKey (.field "upstream"), .topology (.field "upstream")],
        rule.check setting (.object [("upstream", .array [])]) = .ok () := by
  have whole : (Json.array []).IsPositional := .inl ⟨[], rfl⟩
  have listed : (Json.object [("nodes", .array [.array [.string "shop"]])]).IsPositional :=
    .inr ⟨_, _, rfl, List.mem_cons_self⟩
  refine ⟨⟨⟨_, rfl⟩, whole.not_documented⟩, ⟨⟨_, rfl⟩, listed.not_documented⟩, ?_⟩
  intro setting
  simp only [List.forall_mem_cons]
  exact ⟨rfl, rfl, List.forall_mem_nil _⟩

end Upstream

end GatewayCheck
