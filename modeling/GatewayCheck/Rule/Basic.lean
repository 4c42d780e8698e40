import GatewayCheck.Registry
import GatewayCheck.Rejection
import GatewayCheck.Upstream

/-!
Rules that a schema cannot express. Every kind has its rules in a fixed order, and the first rule
that does not pass decides.
-/
namespace GatewayCheck

/-- What rules look up: compiled schemas, for one release. -/
structure Rule.Setting where
  registry : Registry
  release : Release

namespace Upstream

/-- The path of the schema for hash keys of a source; a consumer needs no key. -/
def keyPath? (source : String) : Except RuleViolation (Option String) :=
  if source = "consumer" then .ok none
  else if source = "vars" then .ok (some variableKeyPath)
  else if source = "header" || source = "cookie" then .ok (some headerKeyPath)
  else .error (.unknownHashSource source)

/-- Checks a hash key against the schema at a path. -/
def checkKeyAt (upstream : Upstream) (setting : Rule.Setting) (path : String) :
    Except RuleFailure Unit :=
  if upstream.keyText.isEmpty then .error (.broken (.missingKey upstream.hashSource))
  else
    match setting.registry.resolveFragment setting.release path with
    | .error error => .error (.setup error)
    | .ok fragment =>
      match (fragment.violations (.string upstream.keyText)).head? with
      | some violation =>
        .error (.broken (.invalidKey upstream.hashSource upstream.keyText violation))
      | none => .ok ()

/-- Checks the hash key against the schema for its source. -/
def checkHashKey (upstream : Upstream) (setting : Rule.Setting) : Except RuleFailure Unit :=
  match keyPath? upstream.hashSource with
  | .error violation => .error (.broken violation)
  | .ok none => .ok ()
  | .ok (some path) => upstream.checkKeyAt setting path

/-- Checks the host that is forwarded: that of the one node, or another that is given. -/
def checkHost (upstream : Upstream) : Except RuleFailure Unit :=
  match upstream.passHost with
  | none | some "pass" => .ok ()
  | some "node" =>
    let count := upstream.nodeCount.getD 0
    if upstream.usesDiscovery || count = 1 then .ok () else .error (.broken (.nodeCount count))
  | some "rewrite" =>
    if (upstream.upstreamHost.getD "").isEmpty then .error (.broken .missingHost) else .ok ()
  | some other => .error (.broken (.unknownHostPolicy other))

/-- Checks that a balancer by hash has a key. The key itself is checked when the source is not
given. -/
def checkBalancer (upstream : Upstream) (setting : Rule.Setting) : Except RuleFailure Unit :=
  if !upstream.isHashBalanced then .ok ()
  else if upstream.hashSource ≠ "consumer" && upstream.keyText.isEmpty then
    .error (.broken (.missingKey upstream.hashSource))
  else if upstream.hashOn.isNone then upstream.checkHashKey setting
  else .ok ()

/-- Checks the host that is forwarded and then the key of the balancer. -/
def checkTopology (upstream : Upstream) (setting : Rule.Setting) : Except RuleFailure Unit := do
  upstream.checkHost
  upstream.checkBalancer setting

end Upstream

/-- The addresses in the value of a field, one or several; a value that is no text is an empty
address. -/
def addressesOf : Json → List String
  | .string address => [address]
  | .array items => items.map fun item => item.asString?.getD ""
  | _ => [""]

/-- Checks that no address is empty. -/
def checkAddresses (addresses : List String) : Except RuleViolation Unit :=
  match addresses.findIdx? String.isEmpty with
  | some position => .error (.emptyAddress position)
  | none => .ok ()

/-- Checks that every item of a list is an expression. -/
def checkExpressions (items : List Json) : Except RuleViolation Unit :=
  match Expression.readAll items with
  | .ok _ => .ok ()
  | .error (position, defect) => .error (.expression position defect)

/-- Where a rule finds the upstream: under a field of the document, or as the document itself. -/
inductive UpstreamPlace where
  | field (name : String)
  | document
  deriving DecidableEq, Repr

namespace UpstreamPlace

/-- The field of a place; the document has none. -/
def fieldName : UpstreamPlace → String
  | field name => name
  | document => ""

/-- The steps to a place. -/
def steps : UpstreamPlace → List String
  | field name => [name]
  | document => []

/-- The value at a place; an absent or null field has none. -/
def value? (place : UpstreamPlace) (json : Json) : Option Json :=
  match place with
  | document => some json
  | field name =>
    match json.get? name with
    | none | some .null => none
    | some value => some value

/-- Reads the upstream at a place, when there is one. -/
def read (place : UpstreamPlace) (json : Json) : Except Rejection (Option Upstream) :=
  match place.value? json with
  | none => .ok none
  | some value =>
    match value.readUpstream with
    | .ok upstream => .ok (some upstream)
    | .error error => .error (.structural (.shape place.steps error) [])

end UpstreamPlace

/-- A rule, with the place or the field that it looks at. -/
inductive Rule where
  | expressions
  | hashKey (place : UpstreamPlace)
  | topology (place : UpstreamPlace)
  | addresses (field : String)
  deriving DecidableEq, Repr

namespace Rule

/-- The field that a rule looks at; the whole document has no name. -/
def field : Rule → String
  | expressions => "vars"
  | hashKey place | topology place => place.fieldName
  | addresses name => name

/-- Checks the upstream at a place. -/
def checkUpstream (place : UpstreamPlace) (check : Upstream → Except RuleFailure Unit)
    (document : Json) : Except Rejection Unit := do
  match ← place.read document with
  | none => return ()
  | some upstream => (check upstream).mapError (Rejection.ofRule place.fieldName)

/-- Checks a document by a rule. -/
def check (setting : Setting) (document : Json) : Rule → Except Rejection Unit
  | expressions =>
    match document.get? "vars" with
    | none | some .null => .ok ()
    | some (.array items) => (checkExpressions items).mapError (Rejection.semantic "vars")
    | some _ => .error (.semantic "vars" (.expression 0 .notList))
  | hashKey place =>
    checkUpstream place
      (fun upstream => if upstream.hashOn.isSome then upstream.checkHashKey setting else .ok ())
      document
  | topology place => checkUpstream place (fun upstream => upstream.checkTopology setting) document
  | addresses name =>
    match document.get? name with
    | none | some .null => .ok ()
    | some value => (checkAddresses (addressesOf value)).mapError (Rejection.semantic name)

/-- Checks a document by rules in order, up to the first that does not pass. -/
def checkAll (setting : Setting) (document : Json) : List Rule → Except Rejection Unit
  | [] => .ok ()
  | rule :: rest => do
    rule.check setting document
    checkAll setting document rest

end Rule

/-- The rules of a kind, in order. -/
def Resource.rules : Resource → List Rule
  | route =>
    [.expressions, .hashKey (.field "upstream"), .topology (.field "upstream"),
      .addresses "remote_addrs", .addresses "remote_addr"]
  | service => [.hashKey (.field "upstream"), .topology (.field "upstream")]
  | upstream => [.hashKey .document, .topology .document]
  | streamRoute =>
    [.hashKey (.field "upstream"), .topology (.field "upstream"), .addresses "remote_addr"]
  | ssl | consumer | consumerGroup | pluginConfig | globalRule | pluginMetadata => []

end GatewayCheck
