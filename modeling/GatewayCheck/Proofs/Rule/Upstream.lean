import GatewayCheck.Rule.Basic
import GatewayCheck.Proofs.Except
import GatewayCheck.Proofs.Schema.Evaluation

/-!
The rules on upstreams. Two rules share the work: one looks at the key of a hash source that is
given, the other at the forwarded host and at the key when no source is given. Together they leave
no key unchecked.
-/
namespace GatewayCheck

/-- A fragment finds no violation in a document exactly when it accepts the document. -/
theorem Fragment.violations_eq_nil_iff {fragment : Fragment} {document : Json} :
    fragment.violations document = [] ↔ fragment.accepts document = true :=
  Schema.Compiled.violations_eq_nil_iff _ _

namespace Upstream

/-- The key is verified: a consumer needs none, and any other source needs one that the schema for
the source accepts. -/
def HasVerifiedKey (names headers : Fragment) (upstream : Upstream) : Prop :=
  upstream.hashOn.getD "vars" = "consumer" ∨
    ∃ key, upstream.key = some key ∧ key ≠ "" ∧
      (upstream.hashOn.getD "vars" = "vars" ∧ names.accepts (.string key) = true ∨
        (upstream.hashOn.getD "vars" = "header" ∨ upstream.hashOn.getD "vars" = "cookie") ∧
          headers.accepts (.string key) = true)

/-- The upstream has one node, or leaves its nodes to the discovery of a named service. -/
def HasOneNode (upstream : Upstream) : Prop :=
  (upstream.nodes = none ∧ ∃ name, upstream.serviceName = some name ∧ name ≠ "") ∨
    (∃ node, upstream.nodes = some (.listed [node])) ∨
      ∃ weight, upstream.nodes = some (.weighted [weight])

/-- What the rules on upstreams demand. -/
structure Conforms (names headers : Fragment) (upstream : Upstream) : Prop where
  hashKey : upstream.hashOn.isSome ∨ upstream.balancer = some "chash" →
    upstream.HasVerifiedKey names headers
  hostPolicy : upstream.passHost ∈ [none, some "pass", some "node", some "rewrite"]
  oneNode : upstream.passHost = some "node" → upstream.HasOneNode
  host : upstream.passHost = some "rewrite" →
    ∃ host, upstream.upstreamHost = some host ∧ host ≠ ""

/-- Checks the hash key when its source is given. -/
def checkGivenKey (upstream : Upstream) (setting : Rule.Setting) : Except RuleFailure Unit :=
  if upstream.hashOn.isSome then upstream.checkHashKey setting else .ok ()

/-- Checks that a balancer by hash has a key, and the key itself whether or not its source is
given. -/
def checkEveryBalancer (upstream : Upstream) (setting : Rule.Setting) :
    Except RuleFailure Unit :=
  if !upstream.isHashBalanced then .ok ()
  else if upstream.hashSource ≠ "consumer" && upstream.keyText.isEmpty then
    .error (.broken (.missingKey upstream.hashSource))
  else upstream.checkHashKey setting

/-- One check in place of the two rules, which verifies the key of every balancer by hash. -/
def checkThoroughly (upstream : Upstream) (setting : Rule.Setting) : Except RuleFailure Unit := do
  upstream.checkGivenKey setting
  upstream.checkHost
  upstream.checkEveryBalancer setting

section Checks

variable {upstream : Upstream} {setting : Rule.Setting}

/-! ### The key -/

/-- A source has no key, a key for one of the two schemas, or is unknown. -/
theorem keyPath?_cases (source : String) :
    keyPath? source = .ok none ∨ (∃ path ∈ keyPaths, keyPath? source = .ok (some path)) ∨
      keyPath? source = .error (.unknownHashSource source) := by
  unfold keyPath?
  split
  · exact .inl rfl
  · split
    · exact .inr (.inl ⟨variableKeyPath, by decide, rfl⟩)
    · split
      · exact .inr (.inl ⟨headerKeyPath, by decide, rfl⟩)
      · exact .inr (.inr rfl)

/-- A key passes at a path exactly when it is not empty and the schema there accepts it. -/
theorem checkKeyAt_eq_ok {path : String} {fragment : Fragment}
    (resolved : setting.registry.resolveFragment setting.release path = .ok fragment) :
    upstream.checkKeyAt setting path = .ok () ↔
      ∃ key, upstream.key = some key ∧ key ≠ "" ∧ fragment.accepts (.string key) = true := by
  rw [checkKeyAt, resolved]
  cases present : upstream.key with
  | none => simp [keyText, present]
  | some key =>
    have text : upstream.keyText = key := by simp [keyText, present]
    simp only [text, ← Fragment.violations_eq_nil_iff]
    by_cases empty : key = ""
    · simp [empty]
    · have filled : key.isEmpty = false := by simpa using empty
      cases found : fragment.violations (.string key) <;> simp [filled, empty, found]

/-- The check of the hash key passes exactly when the key is verified. -/
theorem checkHashKey_eq_ok {names headers : Fragment}
    (named : setting.registry.resolveFragment setting.release variableKeyPath = .ok names)
    (sent : setting.registry.resolveFragment setting.release headerKeyPath = .ok headers) :
    upstream.checkHashKey setting = .ok () ↔ upstream.HasVerifiedKey names headers := by
  rw [checkHashKey, HasVerifiedKey, ← hashSource]
  by_cases none : upstream.hashSource = "consumer"
  · simp [keyPath?, none]
  by_cases request : upstream.hashSource = "vars"
  · simp [keyPath?, request, checkKeyAt_eq_ok named]
  by_cases header : upstream.hashSource = "header" ∨ upstream.hashSource = "cookie"
  · simp [keyPath?, none, request, header, checkKeyAt_eq_ok sent]
  · simp [keyPath?, none, request, header]

/-- A key that passes is filled, unless the source is a consumer. -/
theorem keyText_of_checkHashKey (passed : upstream.checkHashKey setting = .ok ()) :
    upstream.hashSource = "consumer" ∨ upstream.keyText ≠ "" := by
  by_cases none : upstream.hashSource = "consumer"
  · exact .inl none
  · apply Or.inr
    intro missing
    rw [checkHashKey] at passed
    unfold keyPath? at passed
    rw [if_neg none] at passed
    split at passed
    · cases passed
    · rename_i same
      split at same
      · cases same
      · split at same <;> cases same
    · simp [checkKeyAt, missing] at passed

/-! ### The host -/

/-- There is one node, or discovery, exactly when the count that is checked says so. -/
theorem hasOneNode_iff : upstream.HasOneNode ↔
    upstream.usesDiscovery = true ∨ upstream.nodeCount.getD 0 = 1 := by
  rw [HasOneNode, usesDiscovery, nodeCount]
  cases upstream.nodes with
  | none => cases upstream.serviceName <;> simp
  | some nodes => cases nodes <;> simp [Nodes.count, List.length_eq_one_iff]

/-- The check of the host passes exactly when the policy is known and its condition holds. -/
theorem checkHost_eq_ok :
    upstream.checkHost = .ok () ↔
      upstream.passHost ∈ [none, some "pass", some "node", some "rewrite"] ∧
        (upstream.passHost = some "node" → upstream.HasOneNode) ∧
        (upstream.passHost = some "rewrite" →
          ∃ host, upstream.upstreamHost = some host ∧ host ≠ "") := by
  rw [checkHost, hasOneNode_iff]
  split
  · simp_all
  · simp_all
  · rename_i policy
    by_cases one : upstream.usesDiscovery = true ∨ upstream.nodeCount.getD 0 = 1 <;>
      simp [policy, one]
  · cases given : upstream.upstreamHost <;> simp_all
  · simp_all

/-! ### Both rules together -/

/-- Once a given key has passed, the balancer's check is that of every balancer. -/
theorem checkBalancer_eq (passed : upstream.checkGivenKey setting = .ok ()) :
    upstream.checkBalancer setting = upstream.checkEveryBalancer setting := by
  rw [checkBalancer, checkEveryBalancer]
  cases source : upstream.hashOn with
  | none => rfl
  | some name =>
    have verified : upstream.checkHashKey setting = .ok () := by
      rwa [checkGivenKey, if_pos (by simp [source])] at passed
    rw [verified]
    rfl

/-- The check of every balancer passes exactly when a balancer by hash has a verified key. -/
theorem checkEveryBalancer_eq_ok :
    upstream.checkEveryBalancer setting = .ok () ↔
      (upstream.balancer = some "chash" → upstream.checkHashKey setting = .ok ()) := by
  rw [checkEveryBalancer, isHashBalanced]
  by_cases balanced : upstream.balancer = some "chash"
  · by_cases missing : upstream.hashSource ≠ "consumer" ∧ upstream.keyText = ""
    · rw [if_neg (by simp [balanced]), if_pos (by simpa using missing)]
      constructor
      · intro passed
        cases passed
      · intro verified
        rcases keyText_of_checkHashKey (verified balanced) with none | filled
        · exact absurd none missing.1
        · exact absurd missing.2 filled
    · rw [if_neg (by simp [balanced]), if_neg (by simpa using missing)]
      simp [balanced]
  · simp [balanced]

/-- The thorough check passes exactly when the upstream conforms. -/
theorem checkThoroughly_eq_ok {names headers : Fragment}
    (named : setting.registry.resolveFragment setting.release variableKeyPath = .ok names)
    (sent : setting.registry.resolveFragment setting.release headerKeyPath = .ok headers) :
    upstream.checkThoroughly setting = .ok () ↔ upstream.Conforms names headers := by
  have given : upstream.checkGivenKey setting = .ok () ↔
      (upstream.hashOn.isSome → upstream.HasVerifiedKey names headers) := by
    rw [checkGivenKey, ← checkHashKey_eq_ok named sent]
    split <;> simp_all
  have balanced : upstream.checkEveryBalancer setting = .ok () ↔
      (upstream.balancer = some "chash" → upstream.HasVerifiedKey names headers) := by
    rw [checkEveryBalancer_eq_ok, checkHashKey_eq_ok named sent]
  rw [checkThoroughly, Except.bind_eq_ok]
  constructor
  · rintro ⟨_, first, rest⟩
    obtain ⟨_, passed, second⟩ := Except.bind_eq_ok.1 rest
    obtain ⟨policy, node, host⟩ := checkHost_eq_ok.1 passed
    exact ⟨fun needed => needed.elim (given.1 first) (balanced.1 second), policy, node, host⟩
  · rintro ⟨key, policy, node, host⟩
    refine ⟨(), given.2 fun named => key (.inl named), Except.bind_eq_ok.2 ?_⟩
    exact ⟨(), checkHost_eq_ok.2 ⟨policy, node, host⟩,
      balanced.2 fun hashed => key (.inr hashed)⟩

end Checks

end Upstream

/-! ### Rules -/

/-- The rule looks at an upstream. -/
def Rule.concernsUpstream : Rule → Bool
  | hashKey _ | topology _ => true
  | expressions | addresses _ => false

/-- Where the documents of a kind have their upstream. -/
def Resource.upstreamPlace : Resource → UpstreamPlace
  | upstream => .document
  | _ => .field "upstream"

/-- A kind that carries an upstream looks at it by two rules, the one on the hash key first. -/
theorem Resource.rules_on_upstream {kind : Resource} (carries : kind.carriesUpstream = true) :
    kind.rules.filter Rule.concernsUpstream =
      [.hashKey kind.upstreamPlace, .topology kind.upstreamPlace] := by
  cases kind <;> first
    | rfl
    | cases carries

namespace Rule

variable {setting : Setting} {place : UpstreamPlace} {document : Json} {upstream : Upstream}

/-- An upstream that is read is checked, and what fails is said of its place. -/
theorem checkUpstream_of_read (found : place.read document = .ok (some upstream))
    (check : Upstream → Except RuleFailure Unit) :
    checkUpstream place check document =
      (check upstream).mapError (Rejection.ofRule place.fieldName) := by
  rw [checkUpstream, found]
  rfl

/-- The two rules on an upstream find what one thorough check finds. -/
theorem checkAll_upstream (found : place.read document = .ok (some upstream)) :
    checkAll setting document [.hashKey place, .topology place] =
      (upstream.checkThoroughly setting).mapError (Rejection.ofRule place.fieldName) := by
  have key : (hashKey place).check setting document =
      (upstream.checkGivenKey setting).mapError (Rejection.ofRule place.fieldName) :=
    checkUpstream_of_read found _
  have rest : (topology place).check setting document =
      (upstream.checkTopology setting).mapError (Rejection.ofRule place.fieldName) :=
    checkUpstream_of_read found _
  rw [checkAll, checkAll, checkAll, key, rest, Upstream.checkThoroughly, Upstream.checkTopology]
  cases given : upstream.checkGivenKey setting with
  | error failure => rfl
  | ok =>
    rw [Upstream.checkBalancer_eq given]
    cases upstream.checkHost with
    | error failure => rfl
    | ok => cases upstream.checkEveryBalancer setting <;> rfl

/-- Rules that pass can be left out. -/
theorem checkAll_filter {setting : Setting} {document : Json} {kept : Rule → Bool}
    {rules : List Rule}
    (passing : ∀ rule ∈ rules, kept rule = false → rule.check setting document = .ok ()) :
    checkAll setting document rules = checkAll setting document (rules.filter kept) := by
  induction rules with
  | nil => rfl
  | cons rule rest ih =>
    have later := ih fun other listed => passing other (List.mem_cons_of_mem _ listed)
    rw [checkAll, later, List.filter_cons]
    split
    · rfl
    · rename_i dropped
      rw [passing rule List.mem_cons_self (by simpa using dropped)]
      rfl

/-! ### Settings -/

section Settings

variable {first second : Setting}

/-- Settings that resolve the same schemas of hash keys check hash keys alike. -/
theorem checkHashKey_congr (same : ∀ path, first.registry.resolveFragment first.release path =
      second.registry.resolveFragment second.release path) (upstream : Upstream) :
    upstream.checkHashKey first = upstream.checkHashKey second := by
  simp only [Upstream.checkHashKey, Upstream.checkKeyAt, same]

/-- Settings that check hash keys alike check documents alike. -/
theorem checkAll_congr
    (same : ∀ upstream : Upstream, upstream.checkHashKey first = upstream.checkHashKey second)
    (document : Json) (rules : List Rule) :
    checkAll first document rules = checkAll second document rules := by
  have each (rule : Rule) : rule.check first document = rule.check second document := by
    cases rule with
    | expressions | addresses => rfl
    | hashKey place => simp only [check, same]
    | topology place =>
      simp only [check, Upstream.checkTopology, Upstream.checkBalancer, same]
  induction rules with
  | nil => rfl
  | cons rule rest ih => simp only [checkAll, each, ih]

end Settings

end Rule

end GatewayCheck
