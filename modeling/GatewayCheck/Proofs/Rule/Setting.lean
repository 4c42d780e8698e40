import GatewayCheck.Checker
import GatewayCheck.Proofs.Rule.Grounds

/-!
Rules and their setting. An upstream fails its checks in a few ways. The only thing that a rule
looks up is a schema of hash keys, so a check fails for its setting only when such a schema does not
resolve.
-/
namespace GatewayCheck

/-- The setting fails to give a schema of hash keys. -/
def Rule.Setting.Fails (setting : Rule.Setting) (error : SetupError) : Prop :=
  ∃ path ∈ keyPaths, setting.registry.resolveFragment setting.release path = .error error

/-- A failure of a rule that is not a broken rule is one of the setting. -/
def RuleFailure.IsFrom (setting : Rule.Setting) : RuleFailure → Prop
  | .broken _ => True
  | .setup error => setting.Fails error

/-- A rejection of a document, and not of bytes, that blames the setting only for what the setting
fails to give. -/
def Rejection.IsFrom (setting : Rule.Setting) : Rejection → Prop
  | .setup error => setting.Fails error
  | .malformed _ => False
  | .structural _ _ | .semantic _ _ => True

/-- The rejection for a failure has the same cause. -/
theorem Rejection.isFrom_ofRule {setting : Rule.Setting} {failure : RuleFailure} (field : String)
    (cause : failure.IsFrom setting) : (Rejection.ofRule field failure).IsFrom setting := by
  cases failure with
  | broken => trivial
  | setup => exact cause

namespace Upstream

/-- The ways in which the checks of an upstream fail. -/
inductive Fails (upstream : Upstream) (setting : Rule.Setting) : RuleFailure → Prop
  | setup {error : SetupError} (fails : setting.Fails error) : Fails upstream setting (.setup error)
  | unknownHashSource :
    Fails upstream setting (.broken (.unknownHashSource upstream.hashSource))
  | missingKey (empty : upstream.keyText.isEmpty = true) :
    Fails upstream setting (.broken (.missingKey upstream.hashSource))
  | invalidKey {path : String} {fragment : Fragment} {violation : Schema.Violation}
    (listed : path ∈ keyPaths)
    (resolved : setting.registry.resolveFragment setting.release path = .ok fragment)
    (found : (fragment.violations (.string upstream.keyText)).head? = some violation) :
    Fails upstream setting (.broken (.invalidKey upstream.hashSource upstream.keyText violation))
  | nodeCount : Fails upstream setting (.broken (.nodeCount (upstream.nodeCount.getD 0)))
  | missingHost : Fails upstream setting (.broken .missingHost)
  | unknownHostPolicy {name : String} (policy : upstream.passHost = some name)
    (unknown : name ∉ ["pass", "node", "rewrite"]) :
    Fails upstream setting (.broken (.unknownHostPolicy name))

variable {upstream : Upstream} {setting : Rule.Setting} {failure : RuleFailure}

/-- An upstream that is rejected fails its checks. -/
theorem Grounds.fails (grounds : upstream.Grounds setting failure) :
    upstream.Fails setting failure := by
  cases grounds with
  | setup listed unresolved => exact .setup ⟨_, listed, unresolved⟩
  | unknownHashSource given =>
    have fails : upstream.Fails setting (.broken (.unknownHashSource upstream.hashSource)) :=
      .unknownHashSource
    rwa [hashSource, given] at fails
  | missingKey asked needed missing => exact .missingKey (isMissing_iff.1 missing)
  | @invalidKey key path fragment reason asked given filled subject resolved refused first =>
    have text : upstream.keyText = key := by rw [keyText, given, Option.getD_some]
    rw [← text] at first ⊢
    exact .invalidKey subject.needed.1 resolved first
  | nodeCount => exact .nodeCount
  | unknownHostPolicy given unknown => exact .unknownHostPolicy given unknown
  | missingHost => exact .missingHost

/-- An upstream blames the setting only for a schema of hash keys. -/
theorem Fails.isFrom (fails : upstream.Fails setting failure) : failure.IsFrom setting := by
  cases fails with
  | setup fails => exact fails
  | unknownHashSource | missingKey | invalidKey | nodeCount | missingHost | unknownHostPolicy =>
    trivial

end Upstream

namespace Rule

variable {setting : Setting} {document : Json} {rejection : Rejection}

/-- The ways in which a rule rejects a document. -/
inductive Rejects (setting : Setting) (document : Json) : Rule → Rejection → Prop
  | unread {rule : Rule} {place : UpstreamPlace} {item : Json} {error : Json.ShapeError}
    (looks : rule = .hashKey place ∨ rule = .topology place)
    (found : place.value? document = some item) (failed : item.readUpstream = .error error) :
    Rejects setting document rule (.structural (.shape place.steps error) [])
  | upstream {rule : Rule} {place : UpstreamPlace} {upstream : Upstream} {failure : RuleFailure}
    (looks : rule = .hashKey place ∨ rule = .topology place)
    (read : place.read document = .ok (some upstream)) (fails : upstream.Fails setting failure) :
    Rejects setting document rule (.ofRule place.fieldName failure)
  | expression {items : List Json} {position : Nat} {defect : Expression.Defect}
    (found : document.get? "vars" = some (.array items))
    (bad : Expression.readAll items = .error (position, defect)) :
    Rejects setting document .expressions (.semantic "vars" (.expression position defect))
  | noList {item : Json} (found : document.get? "vars" = some item)
    (other : ∀ items, item ≠ .array items) :
    Rejects setting document .expressions (.semantic "vars" (.expression 0 .notList))
  | emptyAddress {name : String} {item : Json} {position : Nat}
    (found : document.get? name = some item)
    (empty : (addressesOf item).findIdx? String.isEmpty = some position) :
    Rejects setting document (.addresses name) (.semantic name (.emptyAddress position))

/-- An upstream is not read exactly when its value has another shape. -/
theorem read_eq_error {place : UpstreamPlace} : place.read document = .error rejection ↔
    ∃ item error, place.value? document = some item ∧ item.readUpstream = .error error ∧
      rejection = .structural (.shape place.steps error) [] := by
  rw [UpstreamPlace.read]
  cases found : place.value? document with
  | none => simp
  | some item =>
    cases read : item.readUpstream with
    | ok upstream => simp [read]
    | error error => simp [read, eq_comm]

/-- A rule on an upstream rejects a document when the upstream cannot be read, or when it fails a
check. -/
theorem rejects_of_upstream {rule : Rule} {place : UpstreamPlace}
    (looks : rule = .hashKey place ∨ rule = .topology place)
    (failed : rule.check setting document = .error rejection) :
    Rejects setting document rule rejection := by
  rcases grounds_of_check looks failed with unread | ⟨upstream, failure, read, grounds, rfl⟩
  · obtain ⟨item, error, found, unreadable, rfl⟩ := read_eq_error.1 unread
    exact .unread looks found unreadable
  · exact .upstream looks read grounds.fails

/-- A rule that does not pass rejects a document in one of its ways. -/
theorem rejects_of_check {rule : Rule} (failed : rule.check setting document = .error rejection) :
    Rejects setting document rule rejection := by
  cases rule with
  | expressions =>
    rw [check] at failed
    split at failed
    · cases failed
    · cases failed
    · rename_i items found
      obtain ⟨violation, broken, rfl⟩ := Except.mapError_eq_error.1 failed
      rw [checkExpressions] at broken
      split at broken
      · cases broken
      · rename_i position defect bad
        cases broken
        exact .expression found bad
    · rename_i item other found
      cases failed
      exact .noList found other
  | hashKey place => exact rejects_of_upstream (.inl rfl) failed
  | topology place => exact rejects_of_upstream (.inr rfl) failed
  | addresses name =>
    rw [check] at failed
    split at failed
    · cases failed
    · cases failed
    · rename_i item other found
      obtain ⟨violation, broken, rfl⟩ := Except.mapError_eq_error.1 failed
      rw [checkAddresses] at broken
      split at broken
      · rename_i position empty
        cases broken
        exact .emptyAddress found empty
      · cases broken

/-- Rules that do not all pass reject a document in one of the ways of one of them. -/
theorem rejects_of_checkAll {rules : List Rule}
    (failed : checkAll setting document rules = .error rejection) :
    ∃ rule ∈ rules, Rejects setting document rule rejection := by
  obtain ⟨before, rule, after, rfl, -, failed⟩ := checkAll_eq_error.1 failed
  exact ⟨rule, by simp, rejects_of_check failed⟩

/-- A rule blames the setting only for a schema of hash keys. -/
theorem Rejects.isFrom {rule : Rule} (rejects : Rejects setting document rule rejection) :
    rejection.IsFrom setting := by
  cases rejects with
  | upstream looks read fails => exact Rejection.isFrom_ofRule _ fails.isFrom
  | unread | expression | noList | emptyAddress => trivial

/-- Rules blame the setting only for a schema of hash keys. -/
theorem isFrom_of_checkAll {rules : List Rule}
    (failed : checkAll setting document rules = .error rejection) : rejection.IsFrom setting := by
  obtain ⟨rule, -, rejects⟩ := rejects_of_checkAll failed
  exact rejects.isFrom

end Rule

/-- A checker blames its setting only for a schema of hash keys. -/
theorem Checker.isFrom_of_check {checker : Checker} {document : Json} {rejection : Rejection}
    (failed : checker.check document = .error rejection) : rejection.IsFrom checker.setting := by
  rcases Except.bind_eq_error.1 failed with failed | ⟨_, -, failed⟩
  · rw [checkStructure] at failed
    split at failed
    · cases failed
    · cases failed
      trivial
  · exact Rule.isFrom_of_checkAll failed

end GatewayCheck
