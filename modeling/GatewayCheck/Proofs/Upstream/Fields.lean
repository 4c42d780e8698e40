import GatewayCheck.Proofs.Except
import GatewayCheck.Proofs.Upstream
import Mathlib.Data.List.Forall2

/-!
The fields of upstreams. An upstream is read field by field, from the members of an object or from
the items of an array, and it can be read exactly when every field has the type that it asks for.
-/
namespace GatewayCheck

open Json

/-- The fields of an upstream in their own order. -/
def Upstream.fields : List String := "nodes" :: textFields

/-- The fields of a node in their own order. -/
def Node.fields : List String := ["host", "port", "weight", "priority"]

/-- Each field is read as that of the upstream. -/
structure Upstream.StandsIn (upstream : Upstream) (field : String → Json) : Prop where
  nodes : readOptional readNodes (field "nodes") = .ok upstream.nodes
  balancer : readOptional readText (field "type") = .ok upstream.balancer
  hashOn : readOptional readText (field "hash_on") = .ok upstream.hashOn
  key : readOptional readText (field "key") = .ok upstream.key
  passHost : readOptional readText (field "pass_host") = .ok upstream.passHost
  upstreamHost : readOptional readText (field "upstream_host") = .ok upstream.upstreamHost
  serviceName : readOptional readText (field "service_name") = .ok upstream.serviceName

/-- Each field is read as that of the node. -/
structure Node.StandsIn (node : Node) (field : String → Json) : Prop where
  host : field "host" = .string node.host
  port : (field "port").optionalNumber? = some node.port
  weight : (field "weight").optionalNumber? = some node.weight
  priority : (field "priority").optionalNumber? = some node.priority

namespace Json

/-- Two documents hold the same values under keys. -/
def AgreeOn (keys : List String) (left right : Json) : Prop :=
  ∀ key ∈ keys, left.get? key = right.get? key

/-- The item of an array that stands for a field, when the items are the fields in their own order;
a missing item is null. -/
def atPosition (fields : List String) (items : List Json) (name : String) : Json :=
  items.getD (fields.idxOf name) null

variable {json : Json} {members : List (String × Json)} {items : List Json} {upstream : Upstream}
  {node : Node}

/-! ### Field by field -/

/-- An upstream is read from an object when it stands in the members. -/
theorem readUpstream_object : (object members).readUpstream = .ok upstream ↔
    upstream.StandsIn (getOrNull · (object members)) := by
  rw [readUpstream, readUpstreamObject]
  simp only [Except.bind_eq_ok, pure, Except.pure, Except.ok.injEq]
  constructor
  · rintro ⟨_, hashOn, _, key, _, nodes, _, passHost, _, serviceName, _, balancer, _, host, rfl⟩
    exact ⟨nodes, balancer, hashOn, key, passHost, host, serviceName⟩
  · rintro ⟨nodes, balancer, hashOn, key, passHost, host, serviceName⟩
    exact ⟨_, hashOn, _, key, _, nodes, _, passHost, _, serviceName, _, balancer, _, host, rfl⟩

/-- Objects that agree on the fields of upstreams are read alike, or are refused for the same
reason. -/
theorem readUpstream_of_agreeOn {left right : List (String × Json)}
    (agree : AgreeOn Upstream.fields (object left) (object right)) :
    (object left).readUpstream = (object right).readUpstream := by
  simp only [AgreeOn, Upstream.fields, Upstream.textFields, List.forall_mem_cons] at agree
  obtain ⟨nodes, type, source, key, policy, host, service, -⟩ := agree
  simp only [readUpstream, readUpstreamObject, getOrNull, nodes, type, source, key, policy, host,
    service]

/-- An upstream is read from an array when it stands in the items and there are no more items than
fields. -/
theorem readUpstream_array : (array items).readUpstream = .ok upstream ↔
    upstream.StandsIn (atPosition Upstream.fields items) ∧
      items.length ≤ Upstream.fields.length := by
  rw [readUpstream, readUpstreamArray]
  simp only [Except.bind_eq_ok, pure, Except.pure]
  constructor
  · rintro ⟨_, nodes, _, balancer, _, hashOn, _, key, _, passHost, _, host, _, serviceName, same⟩
    split at same
    · rename_i short
      obtain rfl := Except.ok.inj same
      exact ⟨⟨nodes, balancer, hashOn, key, passHost, host, serviceName⟩, short⟩
    · cases same
  · rintro ⟨⟨nodes, balancer, hashOn, key, passHost, host, serviceName⟩, short⟩
    refine ⟨_, nodes, _, balancer, _, hashOn, _, key, _, passHost, _, host, _, serviceName, ?_⟩
    exact if_pos short

/-- A node is read from its four fields. -/
theorem nodeOfFields?_eq_some (field : String → Json) :
    nodeOfFields? (field "host") (field "port") (field "weight") (field "priority") = some node ↔
      node.StandsIn field := by
  simp only [nodeOfFields?, Option.bind_eq_bind, Option.bind_eq_some_iff, pure, Option.some.injEq]
  constructor
  · rintro ⟨host, named, port, first, weight, second, priority, third, rfl⟩
    refine ⟨?_, first, second, third⟩
    cases given : field "host" with
    | string text =>
      rw [given] at named
      rw [Option.some.inj named]
    | null | bool | number | array | object =>
      rw [given] at named
      cases named
  · rintro ⟨named, first, second, third⟩
    exact ⟨node.host, by rw [named]; rfl, _, first, _, second, _, third, rfl⟩

/-- A node is read from an object when it stands in the members. -/
theorem readNode?_object : readNode? (object members) = some node ↔
    node.StandsIn (getOrNull · (object members)) :=
  nodeOfFields?_eq_some (getOrNull · (object members))

/-- A node is read from an array when it stands in the items and there are no more items than
fields. -/
theorem readNode?_array : readNode? (array items) = some node ↔
    node.StandsIn (atPosition Node.fields items) ∧ items.length ≤ Node.fields.length := by
  have fields (items : List Json) := @nodeOfFields?_eq_some node (atPosition Node.fields items)
  match items with
  | [] =>
    refine iff_of_false nofun ?_
    rintro ⟨stands, -⟩
    cases stands.host
  | [host] => exact (fields [host]).trans (and_iff_left (by decide : 1 ≤ 4)).symm
  | [host, port] => exact (fields [host, port]).trans (and_iff_left (by decide : 2 ≤ 4)).symm
  | [host, port, weight] =>
    exact (fields [host, port, weight]).trans (and_iff_left (by decide : 3 ≤ 4)).symm
  | [host, port, weight, priority] =>
    exact (fields [host, port, weight, priority]).trans (and_iff_left (by decide : 4 ≤ 4)).symm
  | _ :: _ :: _ :: _ :: _ :: rest =>
    refine iff_of_false nofun fun ⟨_, short⟩ => ?_
    have most : Node.fields.length = 4 := rfl
    simp only [List.length_cons] at short
    omega

/-- Items are read together exactly when each of them is, in their order. -/
theorem mapM_eq_some {α β : Type} {read : α → Option β} {items : List α} {values : List β} :
    items.mapM read = some values ↔
      List.Forall₂ (fun item value => read item = some value) items values := by
  induction items generalizing values with
  | nil => simp [eq_comm]
  | cons item rest ih =>
    simp only [List.mapM_cons, Option.bind_eq_bind, Option.bind_eq_some_iff, pure,
      Option.some.injEq, List.forall₂_cons_left_iff, ih]
    constructor
    · rintro ⟨value, first, others, later, rfl⟩
      exact ⟨value, others, first, later, rfl⟩
    · rintro ⟨value, others, first, later, rfl⟩
      exact ⟨value, first, others, later, rfl⟩

/-- Nodes are read from an array when each item is read as a node. -/
theorem readNodes_array {nodes : Nodes} : readNodes (array items) = .ok nodes ↔
    ∃ listed, items.mapM readNode? = some listed ∧ .listed listed = nodes := by
  rw [readNodes]
  cases items.mapM readNode? <;> simp

/-! ### Types of fields -/

/-- Null, or a text. -/
def IsTextOrNull (json : Json) : Prop := json = .null ∨ ∃ text, json = .string text

/-- Null, or a number. -/
def IsNumberOrNull (json : Json) : Prop := json = .null ∨ ∃ value, json = .number value

/-- The fields of a node have the right types: a host, and numbers that may be missing. -/
structure HasNodeFields (field : String → Json) : Prop where
  host : ∃ host, field "host" = .string host
  numbers : ∀ name ∈ ["port", "weight", "priority"], (field name).IsNumberOrNull

/-- An object with the fields of a node. -/
def IsNodeObject (json : Json) : Prop :=
  ∃ members, json = .object members ∧ HasNodeFields (getOrNull · json)

/-- An array of the fields of a node in their own order; fields at the end may be missing. -/
def IsNodeArray (json : Json) : Prop :=
  ∃ items, json = .array items ∧ items.length ≤ Node.fields.length ∧
    HasNodeFields (atPosition Node.fields items)

/-- A node in either form. -/
def IsNode (json : Json) : Prop := json.IsNodeObject ∨ json.IsNodeArray

/-- Null, an object, or an array of nodes. -/
def IsNodesOrNull (isNode : Json → Prop) (json : Json) : Prop :=
  json = .null ∨ (∃ members, json = .object members) ∨
    ∃ items, json = .array items ∧ ∀ item ∈ items, isNode item

/-- The fields of an upstream have the right types: nodes and texts, all of which may be missing. -/
structure HasUpstreamFields (isNode : Json → Prop) (field : String → Json) : Prop where
  nodes : (field "nodes").IsNodesOrNull isNode
  texts : ∀ name ∈ Upstream.textFields, (field name).IsTextOrNull

/-- An object with the fields of an upstream. -/
def IsUpstreamObject (isNode : Json → Prop) (json : Json) : Prop :=
  ∃ members, json = .object members ∧ HasUpstreamFields isNode (getOrNull · json)

/-- An array of the fields of an upstream in their own order; fields at the end may be missing. -/
def IsUpstreamArray (isNode : Json → Prop) (json : Json) : Prop :=
  ∃ items, json = .array items ∧ items.length ≤ Upstream.fields.length ∧
    HasUpstreamFields isNode (atPosition Upstream.fields items)

/-- An upstream in either form, with nodes in either form. -/
def IsUpstream (json : Json) : Prop :=
  json.IsUpstreamObject IsNode ∨ json.IsUpstreamArray IsNode

/-! ### What can be read -/

/-- An optional text is read from null and from texts. -/
theorem exists_readText : (∃ text?, readOptional readText json = .ok text?) ↔
    json.IsTextOrNull := by
  cases json with
  | null => exact iff_of_true ⟨none, rfl⟩ (.inl rfl)
  | string text => exact iff_of_true ⟨some text, rfl⟩ (.inr ⟨text, rfl⟩)
  | bool | number | array | object =>
    refine iff_of_false ?_ ?_
    · rintro ⟨_, read⟩
      cases read
    · rintro (same | ⟨_, same⟩) <;> cases same

/-- An optional number is read from null and from numbers. -/
theorem exists_optionalNumber : (∃ value?, json.optionalNumber? = some value?) ↔
    json.IsNumberOrNull := by
  cases json with
  | null => exact iff_of_true ⟨none, rfl⟩ (.inl rfl)
  | number value => exact iff_of_true ⟨some value, rfl⟩ (.inr ⟨value, rfl⟩)
  | bool | string | array | object =>
    refine iff_of_false ?_ ?_
    · rintro ⟨_, read⟩
      cases read
    · rintro (same | ⟨_, same⟩) <;> cases same

/-- A node stands in fields of the right types. -/
theorem exists_node_standsIn {field : String → Json} :
    (∃ node : Node, node.StandsIn field) ↔ HasNodeFields field := by
  constructor
  · rintro ⟨node, named, first, second, third⟩
    refine ⟨⟨node.host, named⟩, ?_⟩
    simp only [List.forall_mem_cons, ← exists_optionalNumber]
    exact ⟨⟨_, first⟩, ⟨_, second⟩, ⟨_, third⟩, List.forall_mem_nil _⟩
  · rintro ⟨⟨host, named⟩, numbers⟩
    simp only [List.forall_mem_cons, ← exists_optionalNumber] at numbers
    obtain ⟨⟨port, first⟩, ⟨weight, second⟩, ⟨priority, third⟩, -⟩ := numbers
    exact ⟨⟨host, port, weight, priority⟩, named, first, second, third⟩

/-- Nodes are read in either form. -/
theorem exists_readNode : (∃ node, readNode? json = some node) ↔ json.IsNode := by
  cases json with
  | object members =>
    simp only [readNode?_object, exists_node_standsIn, IsNode, IsNodeObject, IsNodeArray,
      Json.object.injEq, reduceCtorEq, false_and, exists_false, or_false]
    exact ⟨fun has => ⟨members, rfl, has⟩, fun ⟨_, _, has⟩ => has⟩
  | array items =>
    simp only [readNode?_array, exists_and_right, exists_node_standsIn, IsNode, IsNodeObject,
      IsNodeArray, Json.array.injEq, reduceCtorEq, false_and, exists_false, false_or]
    constructor
    · rintro ⟨has, short⟩
      exact ⟨items, rfl, short, has⟩
    · rintro ⟨_, rfl, short, has⟩
      exact ⟨has, short⟩
  | null | bool | number | string =>
    refine iff_of_false ?_ ?_
    · rintro ⟨_, read⟩
      cases read
    · rintro (⟨_, same, _⟩ | ⟨_, same, _⟩) <;> cases same

/-- Optional nodes are read from null, from objects and from arrays of nodes. -/
theorem exists_readNodes : (∃ nodes?, readOptional readNodes json = .ok nodes?) ↔
    json.IsNodesOrNull IsNode := by
  cases json with
  | null => exact iff_of_true ⟨none, rfl⟩ (.inl rfl)
  | object members =>
    exact iff_of_true ⟨some (.weighted members), rfl⟩ (.inr (.inl ⟨members, rfl⟩))
  | array items =>
    have listed : (∃ nodes, readNodes (array items) = .ok nodes) ↔ ∀ item ∈ items, item.IsNode := by
      simp only [readNodes_array]
      constructor
      · rintro ⟨_, nodes, read, -⟩ item inside
        obtain ⟨position, within, rfl⟩ := List.getElem_of_mem inside
        have each := List.forall₂_iff_get.1 (mapM_eq_some.1 read)
        exact exists_readNode.1 ⟨_, each.2 position within (each.1 ▸ within)⟩
      · intro each
        obtain ⟨nodes, read, -⟩ := mapM_of_forall fun item inside =>
          Option.isSome_iff_exists.2 (exists_readNode.2 (each item inside))
        exact ⟨_, nodes, read, rfl⟩
    refine Except.map_isOk.trans (listed.trans ?_)
    constructor
    · intro each
      exact .inr (.inr ⟨items, rfl, each⟩)
    · rintro (same | ⟨_, same⟩ | ⟨_, same, each⟩)
      · cases same
      · cases same
      · cases same
        exact each
  | bool | number | string =>
    refine iff_of_false ?_ ?_
    · rintro ⟨_, read⟩
      cases read
    · rintro (same | ⟨_, same⟩ | ⟨_, same, _⟩) <;> cases same

/-- An upstream stands in fields of the right types. -/
theorem exists_upstream_standsIn {field : String → Json} :
    (∃ upstream : Upstream, upstream.StandsIn field) ↔ HasUpstreamFields IsNode field := by
  constructor
  · rintro ⟨upstream, nodes, type, source, key, policy, host, service⟩
    refine ⟨exists_readNodes.1 ⟨_, nodes⟩, ?_⟩
    simp only [Upstream.textFields, List.forall_mem_cons, ← exists_readText]
    exact ⟨⟨_, type⟩, ⟨_, source⟩, ⟨_, key⟩, ⟨_, policy⟩, ⟨_, host⟩, ⟨_, service⟩,
      List.forall_mem_nil _⟩
  · rintro ⟨nodes, texts⟩
    simp only [Upstream.textFields, List.forall_mem_cons, ← exists_readText] at texts
    obtain ⟨nodes?, listed⟩ := exists_readNodes.2 nodes
    obtain ⟨⟨type?, type⟩, ⟨source?, source⟩, ⟨key?, key⟩, ⟨policy?, policy⟩, ⟨host?, host⟩,
      ⟨service?, service⟩, -⟩ := texts
    exact ⟨⟨nodes?, type?, source?, key?, policy?, host?, service?⟩, listed, type, source, key,
      policy, host, service⟩

/-- Upstreams are read in either form. -/
theorem exists_readUpstream : (∃ upstream, json.readUpstream = .ok upstream) ↔
    json.IsUpstream := by
  cases json with
  | object members =>
    simp only [readUpstream_object, exists_upstream_standsIn, IsUpstream, IsUpstreamObject,
      IsUpstreamArray, Json.object.injEq, reduceCtorEq, false_and, exists_false, or_false]
    exact ⟨fun has => ⟨members, rfl, has⟩, fun ⟨_, _, has⟩ => has⟩
  | array items =>
    simp only [readUpstream_array, exists_and_right, exists_upstream_standsIn, IsUpstream,
      IsUpstreamObject, IsUpstreamArray, Json.array.injEq, reduceCtorEq, false_and, exists_false,
      false_or]
    constructor
    · rintro ⟨has, short⟩
      exact ⟨items, rfl, short, has⟩
    · rintro ⟨_, rfl, short, has⟩
      exact ⟨has, short⟩
  | null | bool | number | string =>
    refine iff_of_false ?_ ?_
    · rintro ⟨_, read⟩
      cases read
    · rintro (⟨_, same, _⟩ | ⟨_, same, _⟩) <;> cases same

end Json

end GatewayCheck
