import GatewayCheck.Upstream

/-!
Reading upstreams. An object whose fields have the right types is read, and what is read is what
stands in the object.
-/
namespace GatewayCheck

open Json

/-- The fields of an upstream that hold texts. -/
def Upstream.textFields : List String :=
  ["type", "hash_on", "key", "pass_host", "upstream_host", "service_name"]

/-- The values of the fields that the reader of upstreams looks at have the types that it asks
for. -/
structure Upstream.IsShaped (json : Json) : Prop where
  object : ∃ members, json = .object members
  texts : ∀ name ∈ textFields, ∀ item, json.get? name = some item → ∃ text, item = .string text
  nodes : ∀ item, json.get? "nodes" = some item → (∃ weights, item = .object weights) ∨
    ∃ items, item = .array items ∧ ∀ node ∈ items, (readNode? node).isSome

/-- An upstream holds what stands in an object, and no more. -/
structure Upstream.Mirrors (upstream : Upstream) (json : Json) : Prop where
  nodes : (json.get? "nodes" = none ∧ upstream.nodeCount = none) ∨
    (∃ items, json.get? "nodes" = some (.array items) ∧
      upstream.nodeCount = some items.length) ∨
    ∃ weights, json.get? "nodes" = some (.object weights) ∧
      upstream.nodeCount = some weights.length
  balancer : json.get? "type" = upstream.balancer.map .string
  hashOn : json.get? "hash_on" = upstream.hashOn.map .string
  key : json.get? "key" = upstream.key.map .string
  passHost : json.get? "pass_host" = upstream.passHost.map .string
  upstreamHost : json.get? "upstream_host" = upstream.upstreamHost.map .string
  serviceName : json.get? "service_name" = upstream.serviceName.map .string

namespace Json

/-! ### Fields -/

/-- A field that is absent or a text is read as it is. -/
theorem readOptional_readText {json : Json} {name : String}
    (typed : ∀ item, json.get? name = some item → ∃ text, item = .string text) :
    ∃ text?, readOptional readText (json.getOrNull name) = .ok text? ∧
      json.get? name = text?.map .string := by
  cases present : json.get? name with
  | none => exact ⟨none, by simp [getOrNull, present, readOptional], rfl⟩
  | some item =>
    obtain ⟨text, rfl⟩ := typed item present
    exact ⟨some text, by simp [getOrNull, present, readOptional, readText, Except.map], rfl⟩

/-- Items that can each be read can be read together. -/
theorem mapM_of_forall {α β : Type} {read : α → Option β} {items : List α}
    (each : ∀ item ∈ items, (read item).isSome) :
    ∃ values, items.mapM read = some values ∧ values.length = items.length := by
  induction items with
  | nil => exact ⟨[], rfl, rfl⟩
  | cons item rest ih =>
    obtain ⟨value, first⟩ := Option.isSome_iff_exists.1 (each item List.mem_cons_self)
    obtain ⟨values, others, length⟩ := ih fun item listed =>
      each item (List.mem_cons_of_mem _ listed)
    exact ⟨value :: values, by simp [List.mapM_cons, first, others], by simp [length]⟩

/-- Nodes that are absent, an object or a list of nodes are read, and none is lost. -/
theorem readOptional_readNodes {json : Json}
    (typed : ∀ item, json.get? "nodes" = some item → (∃ weights, item = .object weights) ∨
      ∃ items, item = .array items ∧ ∀ node ∈ items, (readNode? node).isSome) :
    ∃ nodes?, readOptional readNodes (json.getOrNull "nodes") = .ok nodes? ∧
      ((json.get? "nodes" = none ∧ nodes?.map Nodes.count = none) ∨
        (∃ items, json.get? "nodes" = some (.array items) ∧
          nodes?.map Nodes.count = some items.length) ∨
        ∃ weights, json.get? "nodes" = some (.object weights) ∧
          nodes?.map Nodes.count = some weights.length) := by
  cases present : json.get? "nodes" with
  | none => exact ⟨none, by simp [getOrNull, present, readOptional], .inl ⟨rfl, rfl⟩⟩
  | some item =>
    rcases typed item present with ⟨weights, rfl⟩ | ⟨items, rfl, each⟩
    · exact ⟨some (.weighted weights),
        by simp [getOrNull, present, readOptional, readNodes, Except.map],
        .inr (.inr ⟨weights, rfl, rfl⟩)⟩
    · obtain ⟨nodes, read, length⟩ := mapM_of_forall each
      exact ⟨some (.listed nodes),
        by simp [getOrNull, present, readOptional, readNodes, read, Except.map],
        .inr (.inl ⟨items, rfl, by simp [Nodes.count, length]⟩)⟩

/-- An optional number is read from an absent field or from a number. -/
theorem optionalNumber?_isSome {json : Json} {name : String}
    (typed : ∀ item, json.get? name = some item → ∃ number, item = .number number) :
    (json.getOrNull name).optionalNumber?.isSome := by
  cases present : json.get? name with
  | none => simp [getOrNull, present, optionalNumber?]
  | some item =>
    obtain ⟨number, rfl⟩ := typed item present
    simp [getOrNull, present, optionalNumber?]

/-- A node is read from an object with a host and with numbers in its other fields. -/
theorem readNode?_isSome {members : List (String × Json)} {host : String}
    (named : (Json.object members).get? "host" = some (.string host))
    (numbers : ∀ name ∈ ["port", "weight", "priority"], ∀ item,
      (Json.object members).get? name = some item → ∃ number, item = .number number) :
    (readNode? (.object members)).isSome := by
  obtain ⟨port, first⟩ := Option.isSome_iff_exists.1
    (optionalNumber?_isSome (numbers "port" (by decide)))
  obtain ⟨weight, second⟩ := Option.isSome_iff_exists.1
    (optionalNumber?_isSome (numbers "weight" (by decide)))
  obtain ⟨priority, third⟩ := Option.isSome_iff_exists.1
    (optionalNumber?_isSome (numbers "priority" (by decide)))
  have text : ((Json.object members).getOrNull "host").asString? = some host := by
    simp [getOrNull, named, asString?]
  simp [readNode?, nodeOfFields?, text, first, second, third]

/-! ### The whole upstream -/

/-- An object in the right shape is read as the upstream that it holds. -/
theorem readUpstream_of_isShaped {json : Json} (shaped : Upstream.IsShaped json) :
    ∃ upstream, json.readUpstream = .ok upstream ∧ upstream.Mirrors json := by
  obtain ⟨members, rfl⟩ := shaped.object
  obtain ⟨hashOn, first, source⟩ := readOptional_readText (shaped.texts "hash_on" (by decide))
  obtain ⟨key, second, text⟩ := readOptional_readText (shaped.texts "key" (by decide))
  obtain ⟨nodes, third, count⟩ := readOptional_readNodes shaped.nodes
  obtain ⟨passHost, fourth, policy⟩ := readOptional_readText (shaped.texts "pass_host" (by decide))
  obtain ⟨serviceName, fifth, service⟩ :=
    readOptional_readText (shaped.texts "service_name" (by decide))
  obtain ⟨balancer, sixth, type⟩ := readOptional_readText (shaped.texts "type" (by decide))
  obtain ⟨upstreamHost, seventh, host⟩ :=
    readOptional_readText (shaped.texts "upstream_host" (by decide))
  refine ⟨⟨nodes, balancer, hashOn, key, passHost, upstreamHost, serviceName⟩, ?_,
    count, type, source, text, policy, host, service⟩
  simp only [readUpstream, readUpstreamObject, first, second, third, fourth, fifth, sixth, seventh]
  rfl

end Json

end GatewayCheck
