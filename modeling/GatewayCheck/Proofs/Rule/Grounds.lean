import GatewayCheck.Proofs.Rule.Upstream
import Mathlib.Tactic.SplitIfs

/-!
The grounds on which an upstream is rejected. Every check that fails tells what is wrong with the
upstream, and the upstream is wrong in this way.
-/
namespace GatewayCheck

namespace Upstream

/-- What can be hashed. -/
def hashSources : List String := ["consumer", "vars", "header", "cookie"]

/-- How the host that is forwarded can be chosen. -/
def hostPolicies : List String := ["pass", "node", "rewrite"]

/-- The keys of a source are those that the schema at a path accepts. -/
def HasKeysAt (source path : String) : Prop :=
  (source = "vars" ∧ path = variableKeyPath) ∨
    (source ∈ ["header", "cookie"] ∧ path = headerKeyPath)

/-- A text that may be absent is absent or empty. -/
def IsMissing (text? : Option String) : Prop := text? = none ∨ text? = some ""

/-- An upstream asks for a key when it names a source or when its balancer hashes. -/
def AsksForKey (upstream : Upstream) : Prop :=
  upstream.hashOn ≠ none ∨ upstream.balancer = some "chash"

/-- An upstream without nodes leaves them to the discovery of a service when it names one. -/
def IsDiscovered (upstream : Upstream) : Prop :=
  upstream.nodes = none ∧ ¬IsMissing upstream.serviceName

/-- The grounds on which the checks of an upstream fail. -/
inductive Grounds (upstream : Upstream) (setting : Rule.Setting) : RuleFailure → Prop
  | setup {path : String} {error : SetupError} (listed : path ∈ keyPaths)
    (unresolved : setting.registry.resolveFragment setting.release path = .error error) :
    Grounds upstream setting (.setup error)
  | unknownHashSource {name : String} (given : upstream.hashOn = some name)
    (unknown : name ∉ hashSources) : Grounds upstream setting (.broken (.unknownHashSource name))
  | missingKey (asked : upstream.AsksForKey) (needed : upstream.hashOn.getD "vars" ≠ "consumer")
    (missing : IsMissing upstream.key) :
    Grounds upstream setting (.broken (.missingKey (upstream.hashOn.getD "vars")))
  | invalidKey {key path : String} {fragment : Fragment} {reason : Schema.Violation}
    (asked : upstream.AsksForKey) (given : upstream.key = some key) (filled : key ≠ "")
    (subject : HasKeysAt (upstream.hashOn.getD "vars") path)
    (resolved : setting.registry.resolveFragment setting.release path = .ok fragment)
    (refused : fragment.accepts (.string key) = false)
    (first : (fragment.violations (.string key)).head? = some reason) :
    Grounds upstream setting (.broken (.invalidKey (upstream.hashOn.getD "vars") key reason))
  | nodeCount (policy : upstream.passHost = some "node") (undiscovered : ¬upstream.IsDiscovered)
    (notOne : upstream.nodeCount.getD 0 ≠ 1) :
    Grounds upstream setting (.broken (.nodeCount (upstream.nodeCount.getD 0)))
  | unknownHostPolicy {name : String} (given : upstream.passHost = some name)
    (unknown : name ∉ hostPolicies) : Grounds upstream setting (.broken (.unknownHostPolicy name))
  | missingHost (policy : upstream.passHost = some "rewrite")
    (missing : IsMissing upstream.upstreamHost) : Grounds upstream setting (.broken .missingHost)

variable {upstream : Upstream} {setting : Rule.Setting} {failure : RuleFailure}

/-! ### What the checks look at -/

/-- A text that may be absent is missing exactly when nothing can be read from it. -/
theorem isMissing_iff {text? : Option String} :
    IsMissing text? ↔ (text?.getD "").isEmpty = true := by
  cases text? <;> simp [IsMissing]

/-- A text that is not missing is given. -/
theorem exists_of_not_isMissing {text? : Option String} (held : ¬IsMissing text?) :
    ∃ text, text? = some text ∧ text ≠ "" := by
  cases text? with
  | none => exact absurd (.inl rfl) held
  | some text => exact ⟨text, rfl, fun empty => held (.inr (congrArg some empty))⟩

/-- Nodes are left to discovery exactly when the check of the host says so. -/
theorem isDiscovered_iff : upstream.IsDiscovered ↔ upstream.usesDiscovery = true := by
  rw [IsDiscovered, isMissing_iff, usesDiscovery]
  cases upstream.nodes <;> cases upstream.serviceName <;> simp

/-- The path that is found for a source is that of its keys. -/
theorem keyPath?_eq_some {source path : String} (found : keyPath? source = .ok (some path)) :
    HasKeysAt source path := by
  unfold keyPath? at found
  split_ifs at found with free request sent
  · cases found
  · cases found
    exact .inl ⟨request, rfl⟩
  · cases found
    refine .inr ⟨?_, rfl⟩
    simpa using sent

/-- No path is found for a source exactly when the source is unknown. -/
theorem keyPath?_eq_error {source : String} {violation : RuleViolation} :
    keyPath? source = .error violation ↔
      source ∉ hashSources ∧ violation = .unknownHashSource source := by
  unfold keyPath?
  split_ifs with free request sent
  · simp [free, hashSources]
  · simp [request, hashSources]
  · have known : source = "header" ∨ source = "cookie" := by simpa using sent
    rcases known with rfl | rfl <;> simp [hashSources]
  · have other : source ≠ "header" ∧ source ≠ "cookie" := by simpa using sent
    simp [hashSources, free, request, other.1, other.2, eq_comm]

/-- The path of the keys of a source is that of one of two schemas, and the source needs a key. -/
theorem HasKeysAt.needed {source path : String} (subject : HasKeysAt source path) :
    path ∈ keyPaths ∧ source ≠ "consumer" := by
  rcases subject with ⟨rfl, rfl⟩ | ⟨known, rfl⟩
  · decide
  · refine ⟨by decide, ?_⟩
    rintro rfl
    revert known
    decide

/-! ### Checks that fail -/

/-- The check of a key at a path fails for want of the schema, or for a key that is missing or that
the schema refuses. -/
theorem grounds_of_checkKeyAt {path : String} (asked : upstream.AsksForKey)
    (subject : HasKeysAt (upstream.hashOn.getD "vars") path)
    (failed : upstream.checkKeyAt setting path = .error failure) :
    upstream.Grounds setting failure := by
  obtain ⟨listed, needed⟩ := subject.needed
  rw [checkKeyAt] at failed
  split at failed
  · rename_i empty
    cases failed
    exact .missingKey asked needed (isMissing_iff.2 empty)
  · rename_i held
    obtain ⟨key, given, filled⟩ := exists_of_not_isMissing (mt isMissing_iff.1 held)
    have text : upstream.keyText = key := by rw [keyText, given, Option.getD_some]
    rw [text] at failed
    split at failed
    · rename_i error unresolved
      cases failed
      exact .setup listed unresolved
    · rename_i fragment resolved
      split at failed
      · rename_i reason first
        cases failed
        have refused : fragment.accepts (.string key) = false := by
          rw [← Bool.not_eq_true, ← Fragment.violations_eq_nil_iff]
          intro none
          rw [none] at first
          cases first
        exact .invalidKey asked given filled subject resolved refused first
      · cases failed

/-- The check of the hash key fails for a source that is unknown, or for the key. -/
theorem grounds_of_checkHashKey (asked : upstream.AsksForKey)
    (failed : upstream.checkHashKey setting = .error failure) :
    upstream.Grounds setting failure := by
  rw [checkHashKey] at failed
  split at failed
  · rename_i violation unknown
    cases failed
    obtain ⟨unlisted, rfl⟩ := keyPath?_eq_error.1 unknown
    cases given : upstream.hashOn with
    | none =>
      -- the source that is meant when none is named is known
      rw [hashSource, given] at unlisted
      exact absurd (by decide) unlisted
    | some name =>
      rw [hashSource, given] at unlisted ⊢
      exact .unknownHashSource given unlisted
  · cases failed
  · rename_i path found
    exact grounds_of_checkKeyAt asked (keyPath?_eq_some found) failed

/-- The check of the host fails for its policy or for what the policy asks for. -/
theorem grounds_of_checkHost (failed : upstream.checkHost = .error failure) :
    upstream.Grounds setting failure := by
  rw [checkHost] at failed
  split at failed
  · cases failed
  · cases failed
  · rename_i policy
    dsimp only at failed
    split at failed
    · cases failed
    · rename_i wrong
      cases failed
      rw [Bool.or_eq_true, decide_eq_true_iff, not_or, ← isDiscovered_iff] at wrong
      exact .nodeCount policy wrong.1 wrong.2
  · rename_i policy
    split at failed
    · rename_i empty
      cases failed
      exact .missingHost policy (isMissing_iff.2 empty)
    · cases failed
  · rename_i name unnamed unnoded unwritten policy
    cases failed
    refine .unknownHostPolicy policy fun listed => ?_
    simp only [hostPolicies, List.mem_cons, List.not_mem_nil, or_false] at listed
    rcases listed with rfl | rfl | rfl
    · exact unnamed rfl
    · exact unnoded rfl
    · exact unwritten rfl

/-- The check of the balancer fails for a missing key or as the check of the hash key does. -/
theorem grounds_of_checkBalancer (failed : upstream.checkBalancer setting = .error failure) :
    upstream.Grounds setting failure := by
  rw [checkBalancer] at failed
  split at failed
  · cases failed
  · rename_i hashed
    have asked : upstream.AsksForKey := .inr (by simpa [isHashBalanced] using hashed)
    split at failed
    · rename_i keyless
      cases failed
      obtain ⟨needed, empty⟩ := Bool.and_eq_true_iff.1 keyless
      exact .missingKey asked (of_decide_eq_true needed) (isMissing_iff.2 empty)
    · split at failed
      · exact grounds_of_checkHashKey asked failed
      · cases failed

/-- The check of the topology fails as the checks of the host and of the balancer do. -/
theorem grounds_of_checkTopology (failed : upstream.checkTopology setting = .error failure) :
    upstream.Grounds setting failure := by
  rcases Except.bind_eq_error.1 failed with failed | ⟨_, -, failed⟩
  · exact grounds_of_checkHost failed
  · exact grounds_of_checkBalancer failed

end Upstream

namespace Rule

variable {setting : Setting} {document : Json} {rejection : Rejection}

/-! ### Rules that fail -/

/-- The check of the upstream at a place fails exactly when the upstream cannot be read, or when it
fails the check. -/
theorem checkUpstream_eq_error {place : UpstreamPlace}
    {check : Upstream → Except RuleFailure Unit} :
    checkUpstream place check document = .error rejection ↔
      place.read document = .error rejection ∨
        ∃ upstream failure, place.read document = .ok (some upstream) ∧
          check upstream = .error failure ∧ .ofRule place.fieldName failure = rejection := by
  rw [checkUpstream, Except.bind_eq_error]
  refine or_congr_right ?_
  constructor
  · rintro ⟨found, read, failed⟩
    cases found with
    | none => cases failed
    | some upstream =>
      obtain ⟨failure, own, same⟩ := Except.mapError_eq_error.1 failed
      exact ⟨upstream, failure, read, own, same⟩
  · rintro ⟨upstream, failure, read, own, same⟩
    exact ⟨some upstream, read, Except.mapError_eq_error.2 ⟨failure, own, same⟩⟩

/-- A rule on the upstream at a place fails when the upstream cannot be read, or on grounds that the
upstream gives. -/
theorem grounds_of_check {rule : Rule} {place : UpstreamPlace}
    (looks : rule = .hashKey place ∨ rule = .topology place)
    (failed : rule.check setting document = .error rejection) :
    place.read document = .error rejection ∨
      ∃ upstream failure, place.read document = .ok (some upstream) ∧
        upstream.Grounds setting failure ∧ .ofRule place.fieldName failure = rejection := by
  rcases looks with rfl | rfl
  · rcases checkUpstream_eq_error.1 failed with unread | ⟨upstream, failure, read, own, same⟩
    · exact .inl unread
    · split at own
      · rename_i given
        have asked : upstream.AsksForKey := .inl (Option.isSome_iff_ne_none.1 given)
        exact .inr ⟨upstream, failure, read, Upstream.grounds_of_checkHashKey asked own, same⟩
      · cases own
  · rcases checkUpstream_eq_error.1 failed with unread | ⟨upstream, failure, read, own, same⟩
    · exact .inl unread
    · exact .inr ⟨upstream, failure, read, Upstream.grounds_of_checkTopology own, same⟩

/-- Rules fail for one of them, and those before it pass. -/
theorem checkAll_eq_error {rules : List Rule} :
    checkAll setting document rules = .error rejection ↔
      ∃ before rule after, rules = before ++ rule :: after ∧
        (∀ earlier ∈ before, earlier.check setting document = .ok ()) ∧
          rule.check setting document = .error rejection := by
  induction rules with
  | nil => simp [checkAll]
  | cons first rest ih =>
    constructor
    · intro failed
      rcases Except.bind_eq_error.1 failed with failed | ⟨_, own, failed⟩
      · exact ⟨[], first, rest, rfl, by simp, failed⟩
      · obtain ⟨before, rule, after, rfl, each, failed⟩ := ih.1 failed
        exact ⟨first :: before, rule, after, rfl, List.forall_mem_cons.2 ⟨own, each⟩, failed⟩
    · rintro ⟨before, rule, after, same, each, failed⟩
      cases before with
      | nil =>
        obtain ⟨rfl, -⟩ := List.cons.inj same
        exact Except.bind_eq_error.2 (.inl failed)
      | cons head before =>
        obtain ⟨rfl, rfl⟩ := List.cons.inj same
        obtain ⟨own, each⟩ := List.forall_mem_cons.1 each
        have later := ih.2 ⟨before, rule, after, rfl, each, failed⟩
        exact Except.bind_eq_error.2 (.inr ⟨(), own, later⟩)

end Rule

end GatewayCheck
