import GatewayCheck.Proofs.Rule.Setting
import GatewayCheck.Proofs.Schema.Wording

/-!
The wording of rejections. A rule quotes the texts of a document, and of the schemas of hash keys it
shows what their violations say. So the keys of a document and the texts of schemas are all that can
bring a line break into a rejection.
-/
namespace GatewayCheck

/-! ### Shapes -/

/-- The text about a value of a wrong type holds no line break when the name of the type holds
none. -/
theorem Json.ShapeError.isUnbroken_wrongType (found : Json) {expected : String}
    (named : Text.isUnbroken expected = true) :
    Text.isUnbroken (wrongType found expected).message = true := by
  show Text.isUnbroken ("invalid type: " ++ found.described ++ ", expected " ++ expected) = true
  rw [Text.isUnbroken_append, Text.isUnbroken_append, Text.isUnbroken_append, isUnbroken_described,
    named]
  rfl

namespace Json

/-- Whatever a reading fails for is told without line breaks. -/
def FailsUnbroken {α : Type} (reading : Except ShapeError α) : Prop :=
  ∀ error, reading = .error error → Text.isUnbroken error.message = true

/-- Two readings, one after the other, fail without line breaks when both do. -/
theorem FailsUnbroken.bind {α β : Type} {first : Except ShapeError α}
    {next : α → Except ShapeError β} (early : FailsUnbroken first)
    (late : ∀ value, FailsUnbroken (next value)) : FailsUnbroken (first >>= next) := by
  intro error failed
  obtain failed | ⟨value, -, failed⟩ := Except.bind_eq_error.1 failed
  · exact early error failed
  · exact late value error failed

/-- An optional field is refused as its reader refuses it. -/
theorem FailsUnbroken.optional {α : Type} {read : Json → Except ShapeError α} {json : Json}
    (plain : FailsUnbroken (read json)) : FailsUnbroken (readOptional read json) := by
  intro error failed
  cases json with
  | null => cases failed
  | bool | number | string | array | object => exact plain error (Except.map_eq_error.1 failed)

/-- A value that is no text is refused without line breaks. -/
theorem failsUnbroken_readText (json : Json) : FailsUnbroken (readText json) := by
  intro error failed
  cases json with
  | string => cases failed
  | null | bool | number | array | object =>
    obtain rfl := Except.error.inj failed
    exact ShapeError.isUnbroken_wrongType _ rfl

/-- A value that is no nodes is refused without line breaks. -/
theorem failsUnbroken_readNodes (json : Json) : FailsUnbroken (readNodes json) := by
  intro error failed
  obtain rfl : ShapeError.noAlternative "Nodes" = error := by
    cases json with
    | object => cases failed
    | null | bool | number | string => exact Except.error.inj failed
    | array items =>
      rw [readNodes] at failed
      split at failed
      · cases failed
      · exact Except.error.inj failed
  show Text.isUnbroken ("data did not match any variant of untagged enum " ++ "Nodes") = true
  rfl

/-- An upstream is refused without line breaks. -/
theorem failsUnbroken_readUpstream (json : Json) : FailsUnbroken json.readUpstream := by
  have text (field : Json) := (failsUnbroken_readText field).optional
  have nodes (field : Json) := (failsUnbroken_readNodes field).optional
  cases json with
  | object members =>
    -- the fields are read in the order of their names
    refine (text _).bind fun _ => (text _).bind fun _ => ?_
    refine (nodes _).bind fun _ => ?_
    refine (text _).bind fun _ => (text _).bind fun _ => ?_
    refine (text _).bind fun _ => (text _).bind fun _ => ?_
    exact nofun
  | array items =>
    -- the fields are read in their own order, and then counted
    refine (nodes _).bind fun _ => ?_
    refine (text _).bind fun _ => (text _).bind fun _ => (text _).bind fun _ => ?_
    refine (text _).bind fun _ => (text _).bind fun _ => (text _).bind fun _ => ?_
    intro error failed
    split at failed
    · cases failed
    · obtain rfl := Except.error.inj failed
      show Text.isUnbroken ("invalid length " ++ Number.wholeText items.length ++
        ", expected fewer elements in array") = true
      rw [Text.isUnbroken_append, Text.isUnbroken_append, isUnbroken_wholeText]
      rfl
  | null | bool | number | string =>
    intro error failed
    obtain rfl := Except.error.inj failed
    exact ShapeError.isUnbroken_wrongType _ rfl

end Json

/-! ### Rejections -/

/-- The text of a defect of an expression holds no line break. -/
theorem Expression.Defect.isUnbroken_message (defect : Expression.Defect) :
    Text.isUnbroken defect.message = true := by
  cases defect with
  | notList | notArray | nullValue => decide
  | length count =>
    show Text.isUnbroken (_ ++ Number.wholeText count) = true
    rw [Text.isUnbroken_append, Json.isUnbroken_wholeText]
    rfl
  | negation found | subject found | operator found =>
    show Text.isUnbroken (_ ++ found.compact) = true
    rw [Text.isUnbroken_append, Json.isUnbroken_compact]
    rfl

/-- The text of a broken rule holds no line break unless what it says of a hash key holds one. -/
theorem RuleViolation.isUnbroken_message {violation : RuleViolation}
    (reason : ∀ source key found, violation = .invalidKey source key found →
      Text.isUnbroken found.message = true) : Text.isUnbroken violation.message = true := by
  cases violation with
  | missingHost => decide
  | expression position defect =>
    show Text.isUnbroken (_ ++ Number.wholeText position ++ ": " ++ defect.message) = true
    rw [Text.isUnbroken_append, Text.isUnbroken_append, Text.isUnbroken_append,
      Json.isUnbroken_wholeText, defect.isUnbroken_message]
    rfl
  | unknownHashSource name | unknownHostPolicy name =>
    show Text.isUnbroken (_ ++ Text.quoted name) = true
    rw [Text.isUnbroken_append, Text.isUnbroken_quoted]
    rfl
  | missingKey source =>
    show Text.isUnbroken (_ ++ Text.quoted source ++ _) = true
    rw [Text.isUnbroken_append, Text.isUnbroken_append, Text.isUnbroken_quoted]
    rfl
  | invalidKey source key found =>
    show Text.isUnbroken ("invalid key " ++ Text.quoted key ++ " for hash_on " ++
      Text.quoted source ++ ": " ++ found.message) = true
    simp only [Text.isUnbroken_append, Text.isUnbroken_quoted, reason source key found rfl]
    rfl
  | nodeCount count =>
    show Text.isUnbroken (_ ++ Number.wholeText count) = true
    rw [Text.isUnbroken_append, Json.isUnbroken_wholeText]
    rfl
  | emptyAddress position =>
    show Text.isUnbroken (_ ++ Number.wholeText position ++ " is empty") = true
    rw [Text.isUnbroken_append, Text.isUnbroken_append, Json.isUnbroken_wholeText]
    rfl

/-- Neither the paths nor the text of a detail hold a line break. -/
structure Detail.IsUnbroken (detail : Detail) : Prop where
  instancePath : Text.isUnbroken detail.instancePath = true
  schemaPath : Text.isUnbroken detail.schemaPath = true
  message : Text.isUnbroken detail.message = true

/-- A path in a message holds a line break only if the path does. -/
theorem isUnbroken_orRoot {path : String} (unbroken : Text.isUnbroken path = true) :
    Text.isUnbroken (orRoot path) = true := by
  rw [orRoot]
  split
  · rfl
  · exact unbroken

/-- The line of a detail holds no line break. -/
theorem Detail.IsUnbroken.line {detail : Detail} (unbroken : detail.IsUnbroken) :
    Text.isUnbroken detail.line = true := by
  simp only [Detail.line, Text.isUnbroken_append, isUnbroken_orRoot unbroken.instancePath,
    unbroken.schemaPath, unbroken.message]
  rfl

/-- A violation without line breaks is a detail without any. -/
theorem Schema.Violation.IsUnbroken.detail {violation : Schema.Violation}
    (unbroken : violation.IsUnbroken) : (Detail.violation violation).IsUnbroken where
  instancePath := Json.isUnbroken_pointer unbroken.instancePath
  schemaPath := Json.isUnbroken_pointer unbroken.schemaPath
  message := unbroken.message

/-- Neither the text nor a detail of a rejection holds a line break. -/
def Rejection.IsUnbroken : Rejection → Prop
  | structural first others => first.IsUnbroken ∧ ∀ detail ∈ others, detail.IsUnbroken
  | rejection => Text.isUnbroken rejection.message = true

/-- The text of a rejection without line breaks holds none. -/
theorem Rejection.IsUnbroken.message {rejection : Rejection} (unbroken : rejection.IsUnbroken) :
    Text.isUnbroken rejection.message = true := by
  cases rejection with
  | structural first others =>
    obtain ⟨own, -⟩ := unbroken
    show Text.isUnbroken (_ ++ orRoot first.instancePath ++ ": " ++ first.message) = true
    rw [Text.isUnbroken_append, Text.isUnbroken_append, Text.isUnbroken_append,
      isUnbroken_orRoot own.instancePath, own.message]
    rfl
  | setup | malformed | semantic => exact unbroken

/-! ### Rules -/

/-- The schemas of hash keys that a setting gives show no line break, and neither do the errors where
it gives none. -/
structure Rule.Setting.IsUnbroken (setting : Rule.Setting) : Prop where
  schema : ∀ path ∈ keyPaths, ∀ fragment,
    setting.registry.resolveFragment setting.release path = .ok fragment →
      fragment.compiled.IsUnbroken
  error : ∀ error, setting.Fails error → Text.isUnbroken error.message = true

namespace Rule

variable {setting : Setting} {document : Json} {rejection : Rejection}

/-- A broken rule is rejected without line breaks unless what it says of a hash key holds one. -/
theorem isUnbroken_semantic {field : String} (named : Text.isUnbroken field = true)
    {violation : RuleViolation} (reason : ∀ source key found,
      violation = .invalidKey source key found → Text.isUnbroken found.message = true) :
    (Rejection.semantic field violation).IsUnbroken := by
  show Text.isUnbroken (orRoot field ++ ": " ++ violation.message) = true
  rw [Text.isUnbroken_append, Text.isUnbroken_append, isUnbroken_orRoot named,
    RuleViolation.isUnbroken_message reason]
  rfl

/-- A failure of an upstream is rejected without line breaks. -/
theorem isUnbroken_ofRule (unbroken : setting.IsUnbroken) {field : String}
    (named : Text.isUnbroken field = true) {upstream : Upstream} {failure : RuleFailure}
    (fails : upstream.Fails setting failure) : (Rejection.ofRule field failure).IsUnbroken := by
  cases fails with
  | setup fails =>
    show Text.isUnbroken ("configuration error: " ++ SetupError.message _) = true
    rw [Text.isUnbroken_append, unbroken.error _ fails]
    rfl
  | invalidKey listed resolved found =>
    refine isUnbroken_semantic named ?_
    rintro _ _ _ ⟨⟩
    have plain : (Json.string upstream.keyText).hasUnbrokenKeys = true := rfl
    have whole := unbroken.schema _ listed _ resolved
    exact (whole.violations plain _ (List.mem_of_mem_head? found)).message
  | unknownHashSource | missingKey | nodeCount | missingHost | unknownHostPolicy =>
    exact isUnbroken_semantic named nofun

/-- The steps to an upstream hold no line break if the name of its field holds none. -/
theorem isUnbroken_steps {place : UpstreamPlace}
    (named : Text.isUnbroken place.fieldName = true) :
    ∀ step ∈ place.steps, Text.isUnbroken step = true := by
  cases place with
  | document => exact nofun
  | field name => exact List.forall_mem_singleton.2 named

/-- A rule on a field whose name holds no line break rejects without line breaks. -/
theorem Rejects.isUnbroken (unbroken : setting.IsUnbroken) {rule : Rule}
    (named : Text.isUnbroken rule.field = true)
    (rejects : Rejects setting document rule rejection) : rejection.IsUnbroken := by
  have at_place {place : UpstreamPlace} (looks : rule = .hashKey place ∨ rule = .topology place) :
      Text.isUnbroken place.fieldName = true := by
    rcases looks with rfl | rfl <;> exact named
  cases rejects with
  | unread looks found failed =>
    exact ⟨⟨Json.isUnbroken_pointer (isUnbroken_steps (at_place looks)), rfl,
      Json.failsUnbroken_readUpstream _ _ failed⟩, nofun⟩
  | upstream looks read fails => exact isUnbroken_ofRule unbroken (at_place looks) fails
  | expression | noList | emptyAddress => exact isUnbroken_semantic named nofun

/-- Rules on fields whose names hold no line break reject without line breaks. -/
theorem isUnbroken_of_checkAll (unbroken : setting.IsUnbroken) {rules : List Rule}
    (named : ∀ rule ∈ rules, Text.isUnbroken rule.field = true)
    (failed : checkAll setting document rules = .error rejection) : rejection.IsUnbroken := by
  obtain ⟨rule, listed, rejects⟩ := rejects_of_checkAll failed
  exact rejects.isUnbroken unbroken (named rule listed)

end Rule

/-! ### Checkers -/

/-- The schemas that a checker looks at show no line break. -/
structure Checker.IsUnbroken (checker : Checker) : Prop where
  schema : checker.fragment.compiled.IsUnbroken
  setting : checker.setting.IsUnbroken

/-- Documents whose keys hold no line break are rejected without line breaks, whatever their texts
are. -/
theorem Checker.IsUnbroken.check {checker : Checker} (unbroken : checker.IsUnbroken)
    {document : Json} (keys : document.hasUnbrokenKeys = true) {rejection : Rejection}
    (failed : checker.check document = .error rejection) : rejection.IsUnbroken := by
  obtain failed | ⟨_, -, failed⟩ := Except.bind_eq_error.1 failed
  · have each := unbroken.schema.violations keys
    rw [checkStructure] at failed
    split at failed
    · cases failed
    · rename_i first others found
      obtain rfl := Except.error.inj failed
      have each : ∀ violation ∈ first :: others, violation.IsUnbroken := by
        rw [← found]
        exact each
      obtain ⟨own, each⟩ := List.forall_mem_cons.1 each
      exact ⟨own.detail, List.forall_mem_map.2 fun violation listed =>
        (each violation (List.mem_of_mem_take listed)).detail⟩
  · have named : ∀ rule ∈ checker.kind.rules, Text.isUnbroken rule.field = true := by
      cases checker.kind <;> decide
    exact Rule.isUnbroken_of_checkAll unbroken.setting named failed

end GatewayCheck
