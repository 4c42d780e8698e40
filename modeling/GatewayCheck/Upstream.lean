import GatewayCheck.Json.Shape

/-!
Upstreams as the rules read them: the nodes, the host that is forwarded and the fields of the
consistent hash. Every field may be absent, and other fields are ignored.
-/
namespace GatewayCheck

/-- One node in the listed form. Its numbers stay as they were written. -/
structure Node where
  host : String
  port : Option Number
  weight : Option Number
  priority : Option Number
  deriving DecidableEq, Repr

/-- Nodes are a list of nodes, or an object from addresses to weights. -/
inductive Nodes where
  | listed (nodes : List Node)
  | weighted (weights : List (String × Json))
  deriving Repr

/-- The number of nodes. -/
def Nodes.count : Nodes → Nat
  | listed nodes => nodes.length
  | weighted weights => weights.length

/-- An upstream. -/
structure Upstream where
  nodes : Option Nodes
  balancer : Option String
  hashOn : Option String
  key : Option String
  passHost : Option String
  upstreamHost : Option String
  serviceName : Option String
  deriving Repr

namespace Upstream

/-- The number of nodes, when there are nodes. -/
def nodeCount (upstream : Upstream) : Option Nat := upstream.nodes.map Nodes.count

/-- The balancer chooses nodes by consistent hash. -/
def isHashBalanced (upstream : Upstream) : Bool := upstream.balancer == some "chash"

/-- What is hashed: variables, unless the upstream says otherwise. -/
def hashSource (upstream : Upstream) : String := upstream.hashOn.getD "vars"

/-- The key of the hash; an absent key is empty. -/
def keyText (upstream : Upstream) : String := upstream.key.getD ""

/-- The nodes are left to the discovery of a named service. -/
def usesDiscovery (upstream : Upstream) : Bool :=
  upstream.nodes.isNone && upstream.serviceName.any fun name => !name.isEmpty

end Upstream

namespace Json

/-- The value of an object under a key; an absent value is null. -/
def getOrNull (key : String) (json : Json) : Json := (json.get? key).getD null

/-- The number of an optional number field. -/
def optionalNumber? : Json → Option (Option Number)
  | null => some none
  | number value => some (some value)
  | _ => none

/-- The node of four fields; only the host is required. -/
def nodeOfFields? (host port weight priority : Json) : Option Node := do
  let host ← host.asString?
  let port ← port.optionalNumber?
  let weight ← weight.optionalNumber?
  let priority ← priority.optionalNumber?
  return ⟨host, port, weight, priority⟩

/-- Reads a node, given as an object or as the array of its fields in order. -/
def readNode? : Json → Option Node
  | array [host] => nodeOfFields? host null null null
  | array [host, port] => nodeOfFields? host port null null
  | array [host, port, weight] => nodeOfFields? host port weight null
  | array [host, port, weight, priority] => nodeOfFields? host port weight priority
  | object members =>
    let node := object members
    nodeOfFields? (node.getOrNull "host") (node.getOrNull "port") (node.getOrNull "weight")
      (node.getOrNull "priority")
  | _ => none

/-- Reads nodes in either form. -/
def readNodes : Json → Except ShapeError Nodes
  | array items =>
    match items.mapM readNode? with
    | some nodes => .ok (.listed nodes)
    | none => .error (.noAlternative "Nodes")
  | object members => .ok (.weighted members)
  | _ => .error (.noAlternative "Nodes")

/-- Reads an upstream from an object, field by field in the order of their names. -/
def readUpstreamObject (json : Json) : Except ShapeError Upstream := do
  let hashOn ← readOptional readText (json.getOrNull "hash_on")
  let key ← readOptional readText (json.getOrNull "key")
  let nodes ← readOptional readNodes (json.getOrNull "nodes")
  let passHost ← readOptional readText (json.getOrNull "pass_host")
  let serviceName ← readOptional readText (json.getOrNull "service_name")
  let balancer ← readOptional readText (json.getOrNull "type")
  let upstreamHost ← readOptional readText (json.getOrNull "upstream_host")
  return { nodes, balancer, hashOn, key, passHost, upstreamHost, serviceName }

/-- Reads an upstream from the array of its fields in their own order; fields at the end may be
missing. -/
def readUpstreamArray (items : List Json) : Except ShapeError Upstream := do
  let field (index : Nat) : Json := items.getD index null
  let nodes ← readOptional readNodes (field 0)
  let balancer ← readOptional readText (field 1)
  let hashOn ← readOptional readText (field 2)
  let key ← readOptional readText (field 3)
  let passHost ← readOptional readText (field 4)
  let upstreamHost ← readOptional readText (field 5)
  let serviceName ← readOptional readText (field 6)
  if items.length ≤ 7 then
    return { nodes, balancer, hashOn, key, passHost, upstreamHost, serviceName }
  else throw (.tooManyItems items.length)

/-- Reads an upstream. -/
def readUpstream : Json → Except ShapeError Upstream
  | object members => readUpstreamObject (object members)
  | array items => readUpstreamArray items
  | json => .error (.wrongType json "struct UpstreamDefinition")

end Json

/-- A member for a field that is present. -/
def optionalMember {α : Type} (key : String) (form : α → Json) : Option α → List (String × Json)
  | none => []
  | some value => [(key, form value)]

/-- The document of a node; absent fields are left out. -/
def Node.toJson (node : Node) : Json :=
  .object (("host", .string node.host) :: optionalMember "port" .number node.port ++
    optionalMember "weight" .number node.weight ++ optionalMember "priority" .number node.priority)

/-- The document of nodes, in the form in which they are held. -/
def Nodes.toJson : Nodes → Json
  | listed nodes => .array (nodes.map Node.toJson)
  | weighted weights => .object weights

/-- The document of an upstream with its fields in their own order; absent fields are left out. -/
def Upstream.toJson (upstream : Upstream) : Json :=
  .object (optionalMember "nodes" Nodes.toJson upstream.nodes ++
    optionalMember "type" .string upstream.balancer ++
    optionalMember "hash_on" .string upstream.hashOn ++
    optionalMember "key" .string upstream.key ++
    optionalMember "pass_host" .string upstream.passHost ++
    optionalMember "upstream_host" .string upstream.upstreamHost ++
    optionalMember "service_name" .string upstream.serviceName)

end GatewayCheck
