import GatewayCheck.Proofs.Rule.Setting
import GatewayCheck.Proofs.Upstream

/-!
Prepared documents. A document is prepared for a rule when what the rule looks at has the right
types; then the rule can only fail for a reason that types cannot express, and so can a list of
rules.
-/
namespace GatewayCheck

/-! ### Expressions -/

namespace Expression

/-- An item is never blamed for not being a list of expressions. -/
theorem ofJson_ne_notList (json : Json) : ofJson json ≠ .error .notList := by
  have parts (negated : Bool) (subject operator value : Json) :
      readParts negated subject operator value ≠ .error .notList := by
    intro failed
    rcases Except.bind_eq_error.1 failed with failed | ⟨_, -, failed⟩
    · cases subject <;> simp only [readSubject] at failed
      case string => split at failed <;> cases failed
      all_goals cases failed
    · rcases Except.bind_eq_error.1 failed with failed | ⟨_, -, failed⟩
      · cases operator <;> simp only [readOperator] at failed
        case string => split at failed <;> cases failed
        all_goals cases failed
      · rcases Except.bind_eq_error.1 failed with failed | ⟨_, -, failed⟩
        · cases value <;> cases failed
        · cases failed
  cases json with
  | array elements =>
    rw [ofJson]
    unfold read
    split
    · exact parts _ _ _ _
    · intro failed
      rcases Except.bind_eq_error.1 failed with failed | ⟨_, -, failed⟩
      · unfold readNegation at failed
        split at failed <;> cases failed
      · exact parts _ _ _ _ failed
    · intro failed
      cases failed
  | null | bool | number | string | object =>
    intro failed
    cases failed

/-- The position of a bad expression is that of an item of the list. -/
theorem readAllFrom_error {position found : Nat} {defect : Defect} {items : List Json}
    (failed : readAllFrom position items = .error (found, defect)) :
    defect ≠ .notList ∧ found < position + items.length := by
  induction items generalizing position with
  | nil => cases failed
  | cons item rest ih =>
    rw [List.length_cons]
    rcases Except.bind_eq_error.1 failed with failed | ⟨_, -, failed⟩
    · obtain ⟨cause, own, same⟩ := Except.mapError_eq_error.1 failed
      obtain ⟨rfl, rfl⟩ := Prod.mk.inj same
      refine ⟨fun notList => ofJson_ne_notList item (notList ▸ own), by omega⟩
    · rcases Except.bind_eq_error.1 failed with failed | ⟨_, -, failed⟩
      · obtain ⟨own, inside⟩ := ih failed
        exact ⟨own, by omega⟩
      · cases failed

end Expression

/-! ### Violations that are left -/

/-- The violations that documents of the right types can have. -/
def RuleViolation.IsLeft (document : Json) : RuleViolation → Prop
  | expression position defect => defect ≠ .notList ∧
      ∃ items, document.get? "vars" = some (.array items) ∧ position < items.length
  | unknownHashSource _ | missingKey _ | invalidKey _ _ _ | nodeCount _ | missingHost => True
  | unknownHostPolicy _ | emptyAddress _ => False

/-- A rejection for a violation that documents of the right types can have. -/
def Rejection.IsLeft (document : Json) (rejection : Rejection) : Prop :=
  ∃ field violation, rejection = .semantic field violation ∧ violation.IsLeft document

/-- What a rule looks at has the right types. -/
def Rule.IsPrepared (document : Json) : Rule → Prop
  | expressions => ∀ item, document.get? "vars" = some item → ∃ items, item = .array items
  | hashKey place | topology place => ∀ item, place.value? document = some item →
      Upstream.IsShaped item ∧ ∀ policy, item.get? "pass_host" = some policy →
        ∃ name ∈ ["pass", "node", "rewrite"], policy = .string name
  | addresses name => ∀ item, document.get? name = some item →
      ∀ address ∈ addressesOf item, address ≠ ""

namespace Upstream

variable {upstream : Upstream} {setting : Rule.Setting} {failure : RuleFailure}

/-- Both schemas of hash keys resolve. -/
def KeysResolve (setting : Rule.Setting) : Prop :=
  ∀ path ∈ keyPaths, ∃ fragment,
    setting.registry.resolveFragment setting.release path = .ok fragment

/-- An upstream with a known policy fails by breaking a rule. -/
theorem Fails.isLeft (resolve : KeysResolve setting) (document : Json)
    (known : ∀ name, upstream.passHost = some name → name ∈ ["pass", "node", "rewrite"])
    (fails : upstream.Fails setting failure) :
    ∃ violation, failure = .broken violation ∧ violation.IsLeft document := by
  cases fails with
  | setup fails =>
    obtain ⟨path, listed, unresolved⟩ := fails
    obtain ⟨fragment, resolved⟩ := resolve path listed
    rw [resolved] at unresolved
    cases unresolved
  | unknownHostPolicy policy unknown => exact absurd (known _ policy) unknown
  | unknownHashSource | missingKey | invalidKey | nodeCount | missingHost =>
    exact ⟨_, rfl, trivial⟩

end Upstream

namespace Rule

variable {setting : Setting} {document : Json} {rejection : Rejection}

/-- A prepared upstream is read as it stands. -/
theorem read_of_isShaped {place : UpstreamPlace}
    (shaped : ∀ item, place.value? document = some item → Upstream.IsShaped item) :
    (place.value? document = none ∧ place.read document = .ok none) ∨
      ∃ item upstream, place.value? document = some item ∧
        place.read document = .ok (some upstream) ∧ upstream.Mirrors item := by
  cases found : place.value? document with
  | none => exact .inl ⟨rfl, by simp only [UpstreamPlace.read, found]⟩
  | some item =>
    obtain ⟨upstream, read, mirrors⟩ := Json.readUpstream_of_isShaped (shaped item found)
    exact .inr ⟨item, upstream, rfl, by simp only [UpstreamPlace.read, found, read], mirrors⟩

/-- A prepared upstream is read, and so it fails a check by breaking a rule. -/
theorem Rejects.isLeft_of_upstream (resolve : Upstream.KeysResolve setting) {rule : Rule}
    {place : UpstreamPlace} (looks : rule = .hashKey place ∨ rule = .topology place)
    (prepared : rule.IsPrepared document) {upstream : Upstream} {failure : RuleFailure}
    (read : place.read document = .ok (some upstream)) (fails : upstream.Fails setting failure) :
    (Rejection.ofRule place.fieldName failure).IsLeft document := by
  have shaped : ∀ item, place.value? document = some item → Upstream.IsShaped item ∧
      ∀ policy, item.get? "pass_host" = some policy →
        ∃ name ∈ ["pass", "node", "rewrite"], policy = .string name := by
    rcases looks with rfl | rfl <;> exact prepared
  rcases read_of_isShaped fun item found => (shaped item found).1 with
    ⟨-, absent⟩ | ⟨item, own, found, present, mirrors⟩
  · rw [absent] at read
    cases read
  · obtain rfl := Option.some.inj (Except.ok.inj (present.symm.trans read))
    have known : ∀ name, own.passHost = some name → name ∈ ["pass", "node", "rewrite"] := by
      intro name policy
      have written : item.get? "pass_host" = some (.string name) := by
        rw [mirrors.passHost, policy, Option.map_some]
      obtain ⟨other, listed, same⟩ := (shaped item found).2 _ written
      exact Json.string.inj same ▸ listed
    obtain ⟨violation, rfl, left⟩ := fails.isLeft resolve document known
    exact ⟨place.fieldName, violation, rfl, left⟩

/-- A rule that rejects a document that is prepared for it is broken. -/
theorem Rejects.isLeft (resolve : Upstream.KeysResolve setting) {rule : Rule}
    (prepared : rule.IsPrepared document) (rejects : Rejects setting document rule rejection) :
    rejection.IsLeft document := by
  cases rejects with
  | @unread _ place item error looks found failed =>
    have shaped : Upstream.IsShaped item := by
      rcases looks with rfl | rfl <;> exact (prepared item found).1
    obtain ⟨upstream, read, -⟩ := Json.readUpstream_of_isShaped shaped
    rw [read] at failed
    cases failed
  | upstream looks read fails => exact isLeft_of_upstream resolve looks prepared read fails
  | expression found bad =>
    obtain ⟨own, inside⟩ := Expression.readAllFrom_error bad
    exact ⟨"vars", _, rfl, own, _, found, by omega⟩
  | noList found other =>
    obtain ⟨items, rfl⟩ := prepared _ found
    exact absurd rfl (other items)
  | emptyAddress found empty =>
    obtain ⟨inside, blank, -⟩ := List.findIdx?_eq_some_iff_getElem.1 empty
    have filled := prepared _ found _ (List.getElem_mem inside)
    exact absurd (by simpa using blank) filled

/-- Rules that fail on a document that is prepared for each of them are broken. -/
theorem checkAll_error_of_isPrepared (resolve : Upstream.KeysResolve setting) {rules : List Rule}
    (prepared : ∀ rule ∈ rules, rule.IsPrepared document)
    (failed : checkAll setting document rules = .error rejection) : rejection.IsLeft document := by
  obtain ⟨rule, listed, rejects⟩ := rejects_of_checkAll failed
  exact rejects.isLeft resolve (prepared rule listed)

end Rule

end GatewayCheck
