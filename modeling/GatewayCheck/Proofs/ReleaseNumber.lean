import GatewayCheck.Proofs.Directory
import GatewayCheck.Proofs.Entries
import GatewayCheck.Proofs.Yaml.Entry
import GatewayCheck.Proofs.Yaml.Numbers
import GatewayCheck.Settings

/-!
Releases that are written as numbers. A configuration file keeps the plain text of the nearest
floating-point number, so a number selects the release whose name is rounded to the same number.
-/
namespace GatewayCheck

namespace Config

/-! ### Files of one entry -/

/-- A file of one known key sets its value. -/
theorem ofDocument?_entry {key : String} {setting : Setting}
    (known : Setting.keys.lookup key = some setting) (isPlain : Bool) (value : String) :
    ofDocument? (Yaml.Document.ofEntry key isPlain value) = empty.set setting ⟨none, isPlain, value⟩ := by
  let document := Yaml.Document.ofEntry key isPlain value
  have keyRead : scalarOf document (.scalar none ⟨none, true, key⟩) = pure ⟨none, true, key⟩ := rfl
  have valueRead : scalarOf document (.scalar none ⟨none, isPlain, value⟩) =
      pure ⟨none, isPlain, value⟩ := rfl
  change StateT.run' (readEntries document empty []
    [(.scalar none ⟨none, true, key⟩, .scalar none ⟨none, isPlain, value⟩)]) 0 = _
  rw [readEntries, keyRead, pure_bind]
  simp only [known]
  rw [setNode, valueRead, pure_bind]
  cases empty.set setting ⟨none, isPlain, value⟩ <;> rfl

/-- The keys of settings are words that start with a letter. -/
theorem isWord_key {key : String} {setting : Setting}
    (known : Setting.keys.lookup key = some setting) :
    ∃ first others, key.toList = first :: others ∧ first.isAlpha = true ∧
      (first :: others).length ≤ 1024 ∧ Yaml.IsWord (first :: others) := by
  have words : ∀ entry ∈ Setting.keys, entry.1.toList.head?.any Char.isAlpha = true ∧
      entry.1.toList.length ≤ 1024 ∧
      entry.1.toList.all Yaml.isWordCharacter = true := by decide
  obtain ⟨letter, short, each⟩ := words _ (Entries.mem_of_lookup known)
  cases equal : key.toList with
  | nil =>
    rw [equal] at letter
    cases letter
  | cons first others =>
    rw [equal] at letter short each
    refine ⟨first, others, rfl, letter, short, ⟨List.cons_ne_nil _ _, List.all_eq_true.1 each⟩, ?_⟩
    rintro lone
    rw [(List.cons.inj lone).1] at letter
    cases letter

/-- A text of one known key sets its value, whether it stands in quotes or not. -/
theorem ofText?_entry {key : String} {setting : Setting}
    (known : Setting.keys.lookup key = some setting) {word : String}
    (isWord : Yaml.IsWord word.toList) (isPlain : Bool) :
    ofText? (key.toList ++ ':' :: ' ' :: Yaml.written isPlain word.toList) =
      empty.set setting ⟨none, isPlain, word⟩ := by
  obtain ⟨first, others, equal, letter, short, isKey⟩ := isWord_key known
  have solid : Text.isWhiteSpace first = false := by
    have := Yaml.toNat_of_isWordCharacter (isKey.each first List.mem_cons_self)
    simp only [Text.isWhiteSpace, Bool.or_eq_false_iff, Bool.and_eq_false_iff, decide_eq_false_iff_not,
      beq_eq_false_iff_ne]
    omega
  have more : Text.isBlank (key.toList ++ ':' :: ' ' :: Yaml.written isPlain word.toList) = false := by
    rw [equal, Text.isBlank, List.cons_append, List.all_cons, solid]
    rfl
  rw [ofText?, more, equal, Yaml.Document.ofText?_entry isKey letter short isWord, ← equal,
    String.ofList_toList, String.ofList_toList]
  exact ofDocument?_entry known isPlain word

/-! ### Releases -/

/-- The configuration that names a release and sets nothing else. -/
def naming (name : String) : Config := { empty with release? := some name }

/-- Without a choice of another release, the settings are those of a release. -/
def Selects (config : Config) (release : Release) : Prop :=
  ∀ choices : Choices, choices.release? = none →
    ∃ settings, config.settings choices = .ok settings ∧ settings.release = release

/-- Without a choice of a release, there are no settings, because the name is not known. -/
def Refuses (config : Config) (name : String) : Prop :=
  ∀ choices : Choices, choices.release? = none →
    config.settings choices = .error (.unsupportedRelease name)

/-- Without a choice of a release, the settings are made for the release of the configuration. -/
theorem settings_of_unnamed (config : Config) {choices : Choices} (unnamed : choices.release? = none) :
    ∃ complete : Release → Settings, (∀ release, (complete release).release = release) ∧
      config.settings choices = config.release.map complete := by
  refine ⟨fun release => {
    release
    sink := (choices.sink?.or config.sink?).getD .fallback
    schemaDirectory? := choices.schemaDirectory?.or config.schemaDirectory?
    limit := ((choices.limit?.or config.limit?).map ReportLimit.mk).getD .fallback },
    fun _ => rfl, ?_⟩
  rw [settings, unnamed]
  cases config.release <;> rfl

/-- The release of a configuration that names one. -/
theorem release_naming (name : String) :
    (naming name).release = (Release.ofName? name).elim (.error (.unsupportedRelease name)) .ok :=
  rfl

/-- A configuration selects the release that it names. -/
theorem selects_naming {name : String} {release : Release} :
    (naming name).Selects release ↔ name = release.name := by
  constructor
  · intro selects
    have unnamed : Choices.none.release? = none := rfl
    obtain ⟨complete, ofRelease, made⟩ := (naming name).settings_of_unnamed unnamed
    obtain ⟨settings, done, equal⟩ := selects .none unnamed
    rw [made, release_naming] at done
    cases found : Release.ofName? name with
    | none =>
      rw [found] at done
      cases done
    | some other =>
      rw [found] at done
      obtain rfl : complete other = settings := Except.ok.inj done
      rw [ofRelease] at equal
      exact Release.ofName?_eq_some.1 (equal ▸ found)
  · rintro rfl choices unnamed
    obtain ⟨complete, ofRelease, made⟩ := (naming release.name).settings_of_unnamed unnamed
    refine ⟨complete release, ?_, ofRelease release⟩
    rw [made, release_naming, Release.ofName?_name]
    rfl

/-- A configuration that names no release is refused. -/
theorem refuses_naming {name : String} (unknown : ∀ release : Release, name ≠ release.name) :
    (naming name).Refuses name := by
  intro choices unnamed
  obtain ⟨complete, -, made⟩ := (naming name).settings_of_unnamed unnamed
  have none : Release.ofName? name = none :=
    Option.eq_none_iff_forall_ne_some.2 fun release found =>
      unknown release (Release.ofName?_eq_some.1 found)
  rw [made, release_naming, none]
  rfl

/-! ### Numbers -/

/-- The name of a release is rounded to a finite number, whose plain text it is. -/
theorem rounded?_name (release : Release) :
    Yaml.rounded? release.name = Yaml.readFloating? release.name ∧
      (Yaml.rounded? release.name).map Yaml.Floating.plainText = some release.name := by
  cases release <;> decide +kernel

/-- The plain text of a number is the name of a release exactly if the name is rounded to the same
number. -/
theorem plainText_eq_name {written : String} (number : Yaml.IsNumber written)
    {value : Yaml.Floating} (rounded : Yaml.rounded? written = some value) {release : Release} :
    value.plainText = release.name ↔ Yaml.rounded? release.name = some value := by
  obtain ⟨floating, plain⟩ := rounded?_name release
  constructor
  · intro named
    cases value with
    | finite finite =>
      rw [floating, ← named]
      exact Yaml.readFloating?_plainText (number.isCanonical rounded)
    | infinite negative => revert named; cases negative <;> cases release <;> decide
    | undefined => revert named; cases release <;> decide
  · intro same
    rw [same] at plain
    exact Option.some.inj plain

/-- A number without quotes names the plain text of the number that it is rounded to. -/
theorem set_number {written : String} (number : Yaml.IsNumber written) :
    empty.set .release ⟨none, true, written⟩ =
      (Yaml.rounded? written).map fun value => naming value.plainText := by
  have named : isNothing ⟨none, true, written⟩ = false := number.not_nothing
  have kept : empty.set .release ⟨none, true, written⟩ =
      (readRelease? ⟨none, true, written⟩).map naming := by
    rw [set, readOptional?]
    dsimp only
    rw [named, if_neg (by decide), Option.map_map]
    rfl
  have plain : readRelease? ⟨none, true, written⟩ =
      (Yaml.rounded? written).map Yaml.Floating.plainText := by
    have value : Yaml.Value.ofScalar? ⟨none, true, written⟩ = Yaml.Value.ofPlain? written := rfl
    rw [readRelease?, value, Yaml.rounded?]
    cases number.reading with
    | whole whole plain =>
      rw [plain]
      exact (Option.map_map Yaml.Floating.plainText Yaml.Floating.finite _).symm
    | wide plain =>
      rw [plain]
      rfl
    | floating floating plain =>
      rw [plain]
      rfl
  rw [kept, plain, Option.map_map]
  rfl

/-- A text in quotes names itself. -/
theorem set_quoted (written : String) :
    empty.set .release ⟨none, false, written⟩ = some (naming written) := rfl

/-- A file that names a number in quotes keeps its text. -/
theorem ofText?_quoted {written : String} (number : Yaml.IsNumber written) :
    ofText? ("gateway_version: \"" ++ written ++ "\"").toList = some (naming written) := by
  have known : Setting.keys.lookup "gateway_version" = some .release := by decide
  rw [String.toList_append, String.toList_append, ← set_quoted,
    ← ofText?_entry known number.isWord false]
  rfl

/-- A file that names a number without quotes keeps the plain text of the number that it is rounded
to. -/
theorem ofText?_number {written : String} (number : Yaml.IsNumber written) :
    ofText? ("gateway_version: " ++ written).toList =
      (Yaml.rounded? written).map fun value => naming value.plainText := by
  have known : Setting.keys.lookup "gateway_version" = some .release := by decide
  rw [String.toList_append, ← set_number number, ← ofText?_entry known number.isWord true]
  rfl

/-- What a configuration file makes of a release that is written as a number. In quotes the release
is the text itself. Without quotes it is the plain text of the nearest floating-point number, which
is read as that number again; only a whole number that is too wide is refused. So both files say the
same exactly if the number is written as its plain text, the number selects the release whose name
has the same nearest number, and if there is none, its plain text is reported. -/
theorem number_is_rounded {written : String} (number : Yaml.IsNumber written) :
    ofText? ("gateway_version: \"" ++ written ++ "\"").toList = some (naming written) ∧
      (ofText? ("gateway_version: " ++ written).toList = none ↔ Yaml.IsTooWide written) ∧
      ∀ value, Yaml.rounded? written = some value →
        ofText? ("gateway_version: " ++ written).toList = some (naming value.plainText) ∧
        (∀ finite, value = .finite finite → Yaml.readFloating? value.plainText = some value) ∧
        (ofText? ("gateway_version: " ++ written).toList =
          ofText? ("gateway_version: \"" ++ written ++ "\"").toList ↔ value.plainText = written) ∧
        (∀ release : Release, (naming value.plainText).Selects release ↔
          Yaml.rounded? release.name = some value) ∧
        ((∀ release : Release, Yaml.rounded? release.name ≠ some value) →
          (naming value.plainText).Refuses value.plainText) := by
  have unquoted := ofText?_number number
  refine ⟨ofText?_quoted number, ?_, fun value rounded => ⟨?_, ?_, ?_, fun release => ?_, fun unknown => ?_⟩⟩
  · rw [unquoted, Option.map_eq_none_iff, number.rounds]
  · rw [unquoted, rounded]
    rfl
  · rintro finite rfl
    exact Yaml.readFloating?_plainText (number.isCanonical rounded)
  · rw [unquoted, ofText?_quoted number, rounded, Option.map_some, Option.some.injEq]
    exact ⟨fun same => Option.some.inj (congrArg Config.release? same), fun same => same ▸ rfl⟩
  · rw [selects_naming, plainText_eq_name number rounded]
  · exact refuses_naming fun release named => unknown release ((plainText_eq_name number rounded).1 named)

/-- A zero at the end is dropped: the number 3.110 selects the release 3.11, and the same text in
quotes names no release. -/
theorem zero_is_dropped : Yaml.IsNumber "3.110" ∧
    ofText? ("gateway_version: " ++ "3.110").toList = some (naming "3.11") ∧
    (naming "3.11").Selects .v3_11 ∧
    ofText? ("gateway_version: \"" ++ "3.110" ++ "\"").toList = some (naming "3.110") := by
  have plain : Yaml.Value.ofPlain? "3.110" =
      some (.floating (.finite ⟨false, 7003097420561121, -51⟩)) := by decide +kernel
  have number : Yaml.IsNumber "3.110" := by
    rw [Yaml.IsNumber, plain]
    trivial
  have rounded : Yaml.rounded? "3.110" = some (.finite ⟨false, 7003097420561121, -51⟩) := by
    rw [Yaml.rounded?, plain]
  have text : (Yaml.Floating.finite ⟨false, 7003097420561121, -51⟩).plainText = "3.11" := by
    decide +kernel
  obtain ⟨quoted, -, each⟩ := number_is_rounded number
  obtain ⟨unquoted, -, -, selects, -⟩ := each _ rounded
  rw [text] at unquoted selects
  exact ⟨number, unquoted, (selects .v3_11).2 (by decide +kernel), quoted⟩

/-- The number 3.20 is the name of no release, and yet it selects the release 3.2. -/
theorem other_number_selects_release : Yaml.IsNumber "3.20" ∧
    (∀ release : Release, "3.20" ≠ release.name) ∧
    ofText? "gateway_version: 3.20".toList ≠ ofText? "gateway_version: \"3.20\"".toList ∧
    ∃ config, ofText? "gateway_version: 3.20".toList = some config ∧ config.Selects .v3_2 := by
  have plain : Yaml.Value.ofPlain? "3.20" =
      some (.floating (.finite ⟨false, 7205759403792794, -51⟩)) := by decide +kernel
  have number : Yaml.IsNumber "3.20" := by
    rw [Yaml.IsNumber, plain]
    trivial
  have rounded : Yaml.rounded? "3.20" = some (.finite ⟨false, 7205759403792794, -51⟩) := by
    rw [Yaml.rounded?, plain]
  have text : (Yaml.Floating.finite ⟨false, 7205759403792794, -51⟩).plainText = "3.2" := by
    decide +kernel
  have unquoted : ofText? ("gateway_version: " ++ "3.20").toList = some (naming "3.2") := by
    rw [ofText?_number number, rounded, Option.map_some, text]
  have quoted := ofText?_quoted number
  refine ⟨number, fun release => by cases release <;> decide, fun same => ?_, naming "3.2", unquoted,
    selects_naming.2 rfl⟩
  have kept : some (naming "3.2") = some (naming "3.20") := unquoted.symm.trans (same.trans quoted)
  exact absurd (congrArg Config.release? (Option.some.inj kept)) (by decide)

end Config

end GatewayCheck
