import GatewayCheck.Proofs.Arguments
import GatewayCheck.Proofs.ExitCode
import GatewayCheck.Proofs.Json.Stable
import GatewayCheck.Proofs.Loading

/-!
The command that prints a schema. It prints the schema that a check with the same configuration and
the same flags enforces, and it fails when such a check stops before it looks at a file. On several
lines the same schema is printed, where documents are read back from their texts.
-/
namespace GatewayCheck

/-! ### Schemas that are read back -/

/-- Closing a schema that is read back leaves one that is read back. -/
theorem Json.IsStable.close {schema : Json} (stable : schema.IsStable) (sink : Sink) :
    (sink.close schema).IsStable := by
  rw [isStable_iff] at stable ⊢
  cases schema with
  | object members =>
    rw [Sink.close]
    split
    · exact stable.insertMember rfl
    · exact stable
  | null | bool | number | string | array => exact stable

/-- A library whose documents are read back from their texts. -/
def Library.IsStable (library : Library) : Prop :=
  ∀ release document, library.document? release = some document → document.IsStable

/-- A schema compiled from documents that are read back is read back. -/
theorem Library.IsStable.compile {library : Library} (stable : library.IsStable)
    {release : Release} {path : String} {sink : Sink} {fragment : Fragment}
    (compiled : library.compile release path (some sink) = .ok fragment) :
    fragment.schema.IsStable := by
  obtain ⟨schema, _, found, -, rfl⟩ := Library.compile_eq_ok.1 compiled
  obtain ⟨document, held, shown, -⟩ := Library.fragment_eq_ok.1 found
  have whole := Json.isStable_iff.1 (stable release document held)
  exact (Json.isStable_iff.2 (whole.atPath? shown)).close sink

/-! ### One schema for two commands -/

/-- Where the settings of a command come from: the flags come before the configuration, and the
configuration before what is meant when nothing is chosen. -/
structure Settings.ComesFrom (settings : Settings) (config : Config)
    (outer flags : List Argument) : Prop where
  release : settings.release = (((Argument.value? "gateway-version" flags).bind
    Release.ofName?).or (config.release?.bind Release.ofName?)).getD .fallback
  sink : settings.sink =
    (((Argument.value? "sink" flags).bind Sink.ofName?).or config.sink?).getD .fallback
  schemaDirectory : settings.schemaDirectory? = ((Argument.value? "schema-dir" flags).or
    (Argument.value? "schema-dir" outer)).or config.schemaDirectory?

/-- The library of settings: that of the directory, or else the packaged one. -/
def Settings.Loads (files : FileAccess Id) (settings : Settings) (library : Library) : Prop :=
  settings.schemaDirectory?.elim (library = .packaged) fun directory =>
    (Library.load files directory).run = .ok library

section Commands

variable {files : FileAccess Id} {environment? : Option String} {config : Config}
  {choices : Choices} {settings : Settings} {kind : Resource} {isCompact : Bool}
  {outer flags : List Argument} {path? : Option String} {paths texts : List String}

/-- The release of a configuration is the one that it names, or else the one that is meant. -/
theorem Config.eq_of_release {release : Release} (found : config.release = .ok release) :
    release = (config.release?.bind Release.ofName?).getD .fallback := by
  rw [Config.release] at found
  cases given : config.release? with
  | none =>
    rw [given] at found
    exact (Except.ok.inj found).symm
  | some name =>
    rw [given] at found
    change (Release.ofName? name).elim _ Except.ok = _ at found
    rw [Option.bind_some]
    cases known : Release.ofName? name with
    | none =>
      rw [known] at found
      cases found
    | some own =>
      rw [known] at found
      exact (Except.ok.inj found).symm

/-- The settings of the choices that flags ask for come from the flags. -/
theorem Settings.comesFrom (asked : Invocation.Flagged environment? outer flags path? choices)
    (settled : config.settings choices = .ok settings) :
    settings.ComesFrom config outer flags := by
  obtain ⟨release, chosen, settled⟩ := Except.bind_eq_ok.1 settled
  obtain rfl := Except.ok.inj settled
  refine ⟨?_, by rw [← asked.sink], by rw [← asked.schemaDirectory]⟩
  rw [← asked.release]
  cases named : choices.release? with
  | some own =>
    rw [named] at chosen
    exact (Except.ok.inj chosen).symm
  | none =>
    rw [named] at chosen
    exact Config.eq_of_release chosen

/-- The registry of settings is built over their library. -/
theorem Settings.loads_of_registry {registry : Registry}
    (built : ExceptT.run (settings.registry files) = .ok registry) :
    settings.Loads files registry.library ∧ Registry.build registry.library = .ok registry := by
  cases chosen : settings.schemaDirectory? with
  | none =>
    rw [show ExceptT.run (settings.registry files) = _ from
      Library.run_registry_packaged files chosen] at built
    have built := Except.mapError_eq_ok.1 built
    rw [Settings.Loads, chosen, Registry.library_of_build built]
    exact ⟨rfl, built⟩
  | some directory =>
    rw [show ExceptT.run (settings.registry files) = _ from
      Library.run_registry files chosen] at built
    obtain ⟨library, loaded, built⟩ := Except.bind_eq_ok.1 (Except.mapError_eq_ok.1 built)
    rw [Settings.Loads, chosen, Registry.library_of_build built]
    exact ⟨loaded, built⟩

/-- A request for a schema has the schema of the checker of the same kind. -/
theorem SchemaCommand.fragment_eq_ok {fragment : Fragment} :
    ExceptT.run (SchemaCommand.fragment files config ⟨choices, kind, isCompact⟩) = .ok fragment ↔
      ∃ checker, ExceptT.run (ValidateCommand.checker files config
        ⟨choices, some kind, none, paths⟩) = .ok checker ∧ checker.fragment = fragment := by
  have made {registry : Registry} {settings : Settings} {checker : Checker} :
      Checker.make registry settings.release kind kind.path settings.limit settings.sink =
          .ok checker ↔
        ∃ fragment, registry.resolve settings.release kind kind.path settings.sink = .ok fragment ∧
          ⟨kind, fragment, ⟨registry, settings.release⟩, settings.limit⟩ = checker := by
    rw [Checker.make, Except.bind_eq_ok]
    simp only [pure, Except.pure, Except.ok.injEq]
  rw [SchemaCommand.fragment]
  simp only [run_bind_eq_ok, run_settle_eq_ok, ValidateCommand.checker_eq_ok,
    ValidateCommand.target, Except.ok.injEq]
  constructor
  · rintro ⟨settings, settled, registry, built, resolved⟩
    exact ⟨_, ⟨settings, _, registry, settled, rfl, built, made.2 ⟨_, resolved, rfl⟩⟩, rfl⟩
  · rintro ⟨checker, ⟨settings, _, registry, settled, rfl, built, found⟩, rfl⟩
    obtain ⟨fragment, resolved, rfl⟩ := made.1 found
    exact ⟨settings, settled, registry, built, resolved⟩

/-- What is printed of a schema: its text, or the lines of the document that the text holds. -/
inductive Fragment.Prints (fragment : Fragment) : (isCompact : Bool) → Outcome → Prop
  | compact : Prints fragment true ⟨[fragment.text], 0⟩
  | indented {schema : Json} (read : Json.ofText fragment.text = .ok schema) :
    Prints fragment false ⟨[schema.pretty], 0⟩

/-- A request for a schema ends with what is printed of it. -/
theorem SchemaCommand.run_eq_ok {outcome : Outcome} :
    ExceptT.run (SchemaCommand.run files config ⟨choices, kind, isCompact⟩) = .ok outcome ↔
      ∃ fragment, ExceptT.run (SchemaCommand.fragment files config ⟨choices, kind, isCompact⟩) =
        .ok fragment ∧ fragment.Prints isCompact outcome := by
  rw [SchemaCommand.run, run_bind_eq_ok]
  refine exists_congr fun fragment => and_congr_right fun _ => ?_
  cases isCompact with
  | true =>
    constructor
    · intro done
      obtain rfl := Except.ok.inj done
      exact .compact
    · rintro ⟨⟩
      rfl
  | false =>
    constructor
    · intro done
      obtain ⟨schema, read, done⟩ := run_bind_eq_ok.1 done
      obtain rfl := Except.ok.inj done
      exact .indented (run_settle_eq_ok.1 read)
    · rintro ⟨⟩
      rename_i schema read
      exact run_bind_eq_ok.2 ⟨schema, run_settle_eq_ok.2 read, rfl⟩

/-- The releases are listed for the settings of another command that names none. -/
theorem listVersions_eq_ok {registry : Registry} (unnamed : choices.release? = none)
    (settled : config.settings choices = .ok settings)
    (built : ExceptT.run (settings.registry files) = .ok registry) :
    ExceptT.run (listVersions files config { choices with release? := none, sink? := none }) =
      .ok ⟨registry.library.releases.map Release.name, 0⟩ := by
  obtain ⟨release, chosen, settled⟩ := Except.bind_eq_ok.1 settled
  obtain rfl := Except.ok.inj settled
  rw [unnamed] at chosen
  have again : config.settings { choices with release? := none, sink? := none } =
      .ok ⟨release, config.sink?.getD .fallback,
        choices.schemaDirectory?.or config.schemaDirectory?,
        ((choices.limit?.or config.limit?).map ReportLimit.mk).getD .fallback⟩ :=
    Except.bind_eq_ok.2 ⟨release, chosen, rfl⟩
  rw [listVersions]
  refine run_bind_eq_ok.2 ⟨_, run_settle_eq_ok.2 again, ?_⟩
  refine run_bind_eq_ok.2 ⟨registry, ?_, rfl⟩
  -- the registry depends on nothing but the directory of the schemas
  rw [Settings.registry] at built ⊢
  exact built

end Commands

/-! ### Command lines -/

/-- A command line that asks to check files gets past its set-up with a checker. -/
def Invocation.GetsPast (files : FileAccess Id) (environment? : Option String)
    (texts : List String) (checker : Checker) : Prop :=
  ∃ configPath? command,
    Invocation.ofTexts? environment? texts = some (.command configPath? (.validate command)) ∧
      command.IsSetUp files configPath? checker

/-- The ending of the program. -/
def endingOf (files : FileAccess Id) (environment? : Option String) (texts : List String) : Ending :=
  Ending.ofResult (runProgram files environment? texts)

/-- A checker enforces its schema on the document in a file: the verdict on the file is that of the
document, which is rejected for its structure when the schema does not accept it, and checked
against the rules otherwise. -/
structure Checker.Enforces (files : FileAccess Id) (checker : Checker) (paths : List String)
    (path : String) (document : Json) : Prop where
  verdict : (path, Verdict.ofResult document.label (checker.check document)) ∈
    (checker.report files paths : Report).verdicts
  refused : checker.fragment.accepts document = false →
    ∃ first others, checker.check document = .error (.structural first others)
  accepted : checker.fragment.accepts document = true →
    checker.check document = Rule.checkAll checker.setting document checker.kind.rules

/-- What a schema that is shown has to do with a checker that gets past its set-up. The text of its
schema is shown and is what the checker enforces on every file; the schema is that of the kind in the
loaded documents, for the release and the sink that the flags, the configuration or else the program
choose. On several lines the same value is shown, where the documents are read back from their
texts, and without a release among the flags, the release is listed. -/
structure Checker.IsShown (files : FileAccess Id) (environment? : Option String)
    (outer flags : List Argument) (kind : Resource)
    (paths shown indented check versions : List String) (checker : Checker) : Prop where
  text : endingOf files environment? shown = ⟨checker.fragment.text ++ "\n", "", 0⟩
  report : endingOf files environment? check =
    ⟨(checker.outcome files paths).text, "", (checker.outcome files paths).code⟩
  enforces : ∀ path ∈ paths, ∀ content document, files.read path = Except.ok content →
    Json.ofFile path content = .ok document → checker.Enforces files paths path document
  origin : ∃ (config : Config) (settings : Settings) (library : Library),
    ExceptT.run (Config.load files (((Argument.value? "config" flags).or
      (Argument.value? "config" outer)).or environment?)) = .ok config ∧
    settings.ComesFrom config outer flags ∧ settings.Loads files library ∧
    library.compile settings.release kind.path (some settings.sink) = .ok checker.fragment ∧
    library = checker.setting.registry.library
  indented : checker.setting.registry.library.IsStable →
    (endingOf files environment? indented).code = 0 ∧
      Json.ofText (endingOf files environment? indented).output = .ok checker.fragment.schema ∧
      Json.ofText checker.fragment.text = .ok checker.fragment.schema
  listed : Argument.value? "gateway-version" flags = none → ∃ lines : List String,
    endingOf files environment? versions = ⟨Outcome.text ⟨lines, 0⟩, "", 0⟩ ∧
      checker.fragment.release.name ∈ lines

section Lines

variable {files : FileAccess Id} {environment? : Option String} {outer flags : List Argument}
  {kind : Resource} {paths shown indented check versions : List String}

/-- A request for a schema that is understood prints the schema of the checker. -/
theorem runProgram_schema_eq_ok {texts : List String} {path? : Option String} {choices : Choices}
    {isCompact : Bool} {outcome : Outcome}
    (read : Invocation.ofTexts? environment? texts =
      some (.command path? (.schema ⟨choices, kind, isCompact⟩))) :
    runProgram files environment? texts = Except.ok outcome ↔ ∃ checker,
      ValidateCommand.IsSetUp files path? ⟨choices, some kind, none, paths⟩ checker ∧
        checker.fragment.Prints isCompact outcome := by
  rw [runProgram_eq read]
  change ExceptT.run (Config.load files path? >>= fun config =>
    SchemaCommand.run files config ⟨choices, kind, isCompact⟩) = _ ↔ _
  rw [run_bind_eq_ok]
  constructor
  · rintro ⟨config, loaded, done⟩
    obtain ⟨fragment, found, prints⟩ := SchemaCommand.run_eq_ok.1 done
    obtain ⟨checker, made, rfl⟩ := SchemaCommand.fragment_eq_ok.1 found
    exact ⟨checker, ⟨config, loaded, made⟩, prints⟩
  · rintro ⟨checker, ⟨config, loaded, made⟩, prints⟩
    exact ⟨config, loaded, SchemaCommand.run_eq_ok.2
      ⟨_, SchemaCommand.fragment_eq_ok.2 ⟨checker, made, rfl⟩, prints⟩⟩

/-- A program that does not succeed prints nothing and fails. -/
theorem endingOf_of_failed {texts : List String}
    (failed : ¬ ∃ outcome, runProgram files environment? texts = Except.ok outcome) :
    (endingOf files environment? texts).output = "" ∧
      (endingOf files environment? texts).code = 2 := by
  rw [endingOf]
  cases ended : (runProgram files environment? texts : Except Failure Outcome) with
  | ok outcome => exact absurd ⟨outcome, ended⟩ failed
  | error failure => exact ⟨rfl, rfl⟩

/-- A checker enforces its schema on the documents in its files. -/
theorem Checker.enforces {checker : Checker} {path : String} (listed : path ∈ paths)
    {content : Bytes} {document : Json} (read : files.read path = Except.ok content)
    (holds : Json.ofFile path content = .ok document) :
    checker.Enforces files paths path document where
  verdict := by
    rw [verdicts_report, ← checkFile_eq_ofResult read holds]
    exact List.mem_map.2 ⟨path, listed, rfl⟩
  refused wrong := check_of_refused fun right => by
    rw [checkStructure_eq_ok.1 right] at wrong
    cases wrong
  accepted right := check_of_structure (checkStructure_eq_ok.2 right)

/-- The checker of a command whose flags are understood is shown. -/
theorem Checker.isShown {path? : Option String} {choices : Choices} {checker : Checker}
    (shared : ∀ part ∈ outer, part.isShared = true)
    (common : ∀ part ∈ flags, part.isCommon = true)
    (asked : Invocation.flagged? environment? outer flags = some (path?, choices))
    (readShown : Invocation.ofTexts? environment? shown =
      some (.command path? (.schema ⟨choices, kind, true⟩)))
    (readIndented : Invocation.ofTexts? environment? indented =
      some (.command path? (.schema ⟨choices, kind, false⟩)))
    (readCheck : Invocation.ofTexts? environment? check =
      some (.command path? (.validate ⟨choices, some kind, none, paths⟩)))
    (asksVersions : Invocation.AsksVersions outer flags versions)
    (ready : ValidateCommand.IsSetUp files path? ⟨choices, some kind, none, paths⟩ checker) :
    checker.IsShown files environment? outer flags kind paths shown indented check versions := by
  have chosen := Invocation.flagged shared common asked
  obtain ⟨config, loaded, made⟩ := id ready
  obtain ⟨settings, goal, registry, settled, aimed, built, made⟩ :=
    ValidateCommand.checker_eq_ok.1 made
  obtain rfl := Except.ok.inj aimed
  obtain ⟨loads, complete⟩ := Settings.loads_of_registry built
  obtain ⟨fragment, compiled, rfl⟩ := (Checker.make_eq_ok complete).1 made
  refine {
    text := ?_
    report := ?_
    enforces := fun path listed content document read holds => Checker.enforces listed read holds
    origin := ⟨config, settings, registry.library, ?_, Settings.comesFrom chosen settled, loads,
      compiled, rfl⟩
    indented := fun stable => ?_
    listed := fun unnamed => ?_ }
  · have printed := (runProgram_schema_eq_ok readShown).2 ⟨_, ready, .compact⟩
    rw [endingOf, printed, Ending.ofResult, Outcome.text]
    simp [String.join]
  · rw [endingOf, ValidateCommand.runProgram_of_isSetUp readCheck ready]
    rfl
  · rw [← chosen.configPath]
    exact loaded
  · have stable := Library.IsStable.compile stable compiled
    have printed := (runProgram_schema_eq_ok readIndented).2 ⟨_, ready, .indented stable⟩
    rw [endingOf, printed, Ending.ofResult, Outcome.text]
    refine ⟨rfl, ?_, stable⟩
    have lines := stable.pretty
    simpa [String.join] using lines
  · have listed := Invocation.ofTexts?_of_asksVersions shared common asksVersions asked
    have none : choices.release? = none := by rw [chosen.release, unnamed]; rfl
    refine ⟨registry.library.releases.map Release.name, ?_, ?_⟩
    · rw [endingOf, runProgram_command listed loaded]
      exact congrArg Ending.ofResult (listVersions_eq_ok none settled built)
    · obtain ⟨schema, _, found, -, rfl⟩ := Library.compile_eq_ok.1 compiled
      obtain ⟨document, held, -⟩ := Library.fragment_eq_ok.1 found
      exact List.mem_map_of_mem (Library.mem_releases.2 ⟨document, held⟩)

/-- A check whose flags are understood gets past its set-up with the checker of its command. -/
theorem getsPast_iff {path? : Option String} {command : ValidateCommand} {checker : Checker}
    (read : Invocation.ofTexts? environment? check =
      some (.command path? (.validate command))) :
    Invocation.GetsPast files environment? check checker ↔
      command.IsSetUp files path? checker := by
  constructor
  · rintro ⟨_, _, again, ready⟩
    obtain ⟨rfl, same⟩ := Invocation.command.inj (Option.some.inj (read.symm.trans again))
    obtain rfl := Command.validate.inj same
    exact ready
  · exact fun ready => ⟨path?, command, read, ready⟩

/-- Without a checker neither the schema is printed nor are files checked. -/
theorem not_succeeds (shared : ∀ part ∈ outer, part.isShared = true) (some : paths ≠ [])
    (solid : ∀ path ∈ paths, path ≠ "")
    (asksShown : Invocation.AsksSchema outer flags kind true shown)
    (asksIndented : Invocation.AsksSchema outer flags kind false indented)
    (asksCheck : Invocation.AsksCheck outer flags kind paths check)
    (stopped : ¬ ∃ checker, Invocation.GetsPast files environment? check checker) :
    ∀ texts ∈ [shown, indented, check],
      ¬ ∃ outcome, runProgram files environment? texts = Except.ok outcome := by
  have readCheck := @Invocation.ofTexts?_of_asksCheck environment? _ _ _ _ _ shared asksCheck some
    solid
  have schema {isCompact : Bool} {texts : List String}
      (asks : Invocation.AsksSchema outer flags kind isCompact texts) :
      ¬ ∃ outcome, runProgram files environment? texts = Except.ok outcome := by
    have read := @Invocation.ofTexts?_of_asksSchema environment? _ _ _ _ _ shared asks
    rintro ⟨outcome, done⟩
    cases asked : Invocation.flagged? environment? outer flags with
    | none =>
      rw [asked] at read
      rw [runProgram, read] at done
      cases done
    | some flagged =>
      rw [asked] at read readCheck
      obtain ⟨checker, ready, -⟩ := (@runProgram_schema_eq_ok _ _ _ paths _ _ _ _ _ read).1 done
      exact stopped ⟨checker, (getsPast_iff readCheck).2 ready⟩
  refine List.forall_mem_cons.2 ⟨schema asksShown, List.forall_mem_cons.2 ⟨schema asksIndented,
    List.forall_mem_singleton.2 ?_⟩⟩
  rintro ⟨outcome, done⟩
  cases asked : Invocation.flagged? environment? outer flags with
  | none =>
    rw [asked] at readCheck
    rw [runProgram, readCheck] at done
    cases done
  | some flagged =>
    rw [asked] at readCheck
    rw [runProgram_eq readCheck] at done
    obtain ⟨config, loaded, done⟩ := run_bind_eq_ok.1 done
    obtain ⟨checker, made, -⟩ := ValidateCommand.run_eq_ok.1 done
    exact stopped ⟨checker, (getsPast_iff readCheck).2 ⟨config, loaded, made⟩⟩

/-- The schema that is printed for a kind is the one that a check of the kind enforces, with the same
flags, the same configuration and the same schemas. Where such a check stops before it looks at a
file, the schema is not printed. -/
theorem schema_shows_what_is_enforced (shared : ∀ part ∈ outer, part.isShared = true)
    (some : paths ≠ []) (solid : ∀ path ∈ paths, path ≠ "")
    (asksShown : Invocation.AsksSchema outer flags kind true shown)
    (asksIndented : Invocation.AsksSchema outer flags kind false indented)
    (asksCheck : Invocation.AsksCheck outer flags kind paths check)
    (asksVersions : Invocation.AsksVersions outer flags versions) :
    ((endingOf files environment? shown).code = 0 ↔
        ∃ checker, Invocation.GetsPast files environment? check checker) ∧
      (∀ checker, Invocation.GetsPast files environment? check checker →
        checker.IsShown files environment? outer flags kind paths shown indented check versions) ∧
      ((¬ ∃ checker, Invocation.GetsPast files environment? check checker) →
        ∀ texts ∈ [shown, indented, check], (endingOf files environment? texts).output = "" ∧
          (endingOf files environment? texts).code = 2) := by
  have common : ∀ part ∈ flags, part.isCommon = true := by
    obtain ⟨inner, -, rfl, -⟩ := asksShown
    exact fun part listed => List.of_mem_filter listed
  have readShown := @Invocation.ofTexts?_of_asksSchema environment? _ _ _ _ _ shared asksShown
  have readIndented :=
    @Invocation.ofTexts?_of_asksSchema environment? _ _ _ _ _ shared asksIndented
  have readCheck := @Invocation.ofTexts?_of_asksCheck environment? _ _ _ _ _ shared asksCheck some
    solid
  have isShown (checker : Checker) (past : Invocation.GetsPast files environment? check checker) :
      checker.IsShown files environment? outer flags kind paths shown indented check versions := by
    cases asked : Invocation.flagged? environment? outer flags with
    | none =>
      obtain ⟨_, _, again, -⟩ := past
      rw [readCheck, asked] at again
      cases again
    | some flagged =>
      rw [asked] at readShown readIndented readCheck
      exact Checker.isShown shared common asked readShown readIndented readCheck asksVersions
        ((getsPast_iff readCheck).1 past)
  have stops (stopped : ¬ ∃ checker, Invocation.GetsPast files environment? check checker)
      (texts : List String) (listed : texts ∈ [shown, indented, check]) :=
    endingOf_of_failed (not_succeeds shared some solid asksShown asksIndented asksCheck stopped
      texts listed)
  refine ⟨⟨fun succeeds => ?_, ?_⟩, isShown, stops⟩
  · by_contra stopped
    rw [(stops stopped shown List.mem_cons_self).2] at succeeds
    cases succeeds
  · rintro ⟨checker, past⟩
    rw [(isShown checker past).text]

end Lines

/-- The packaged documents are read back from their texts. -/
theorem Library.packaged_isStable : Library.packaged.IsStable := by
  rintro release _ ⟨⟩
  obtain ⟨regular, shallow⟩ := Packaged.document_isRegular release
  exact Json.ofBytes_compact regular shallow

/-- Metadata of plugins for the lenient sink: the schema is printed that is enforced, on one line and
on several. For a release that is not known nothing is printed. -/
theorem metadata_schema_is_shown : (∃ checker : Checker,
      Invocation.GetsPast drawer none
        ["validate", "--sink", "draft", "--resource", "plugin_metadata", "good.json"] checker ∧
      endingOf drawer none
        ["schema", "--sink", "draft", "--compact", "--resource", "plugin_metadata"] =
          ⟨checker.fragment.text ++ "\n", "", 0⟩ ∧
      Json.ofText (endingOf drawer none
        ["schema", "--resource=plugin_metadata", "--sink", "draft"]).output =
          .ok checker.fragment.schema) ∧
    (endingOf drawer none
      ["schema", "--gateway-version", "9.9", "--compact", "--resource", "service"]).code = 2 := by
  refine ⟨?_, ?_⟩
  · obtain ⟨registry, built⟩ := Packaged.exists_build
    obtain ⟨checker, made, -⟩ := Packaged.make_kind built .v3_13 .pluginMetadata .fallback .draft
    have schemas : ExceptT.run (Settings.registry drawer ⟨.v3_13, .draft, none, .fallback⟩) =
        Except.ok registry := run_settle_eq_ok.2 built
    have parsed : Invocation.ofTexts? none
        ["validate", "--sink", "draft", "--resource", "plugin_metadata", "good.json"] =
          some (.command none (.validate ⟨⟨none, some .draft, none, none⟩, some .pluginMetadata,
            none, ["good.json"]⟩)) := by cbv
    have past : Invocation.GetsPast drawer none
        ["validate", "--sink", "draft", "--resource", "plugin_metadata", "good.json"] checker :=
      ⟨none, _, parsed, .empty, rfl,
        ValidateCommand.checker_eq_ok.2 ⟨_, _, registry, rfl, rfl, schemas, made⟩⟩
    have asksShown : Invocation.AsksSchema [] [.option "sink" "draft"] .pluginMetadata true
        ["schema", "--sink", "draft", "--compact", "--resource", "plugin_metadata"] :=
      ⟨[.option "sink" "draft", .flag "compact", .option "resource" "plugin_metadata"], by cbv, rfl,
        by decide⟩
    have asksIndented : Invocation.AsksSchema [] [.option "sink" "draft"] .pluginMetadata false
        ["schema", "--resource=plugin_metadata", "--sink", "draft"] :=
      ⟨[.option "resource" "plugin_metadata", .option "sink" "draft"], by cbv, rfl, by decide⟩
    have asksCheck : Invocation.AsksCheck [] [.option "sink" "draft"] .pluginMetadata ["good.json"]
        ["validate", "--sink", "draft", "--resource", "plugin_metadata", "good.json"] :=
      ⟨[.option "sink" "draft", .option "resource" "plugin_metadata", .word "good.json"], by cbv,
        rfl, rfl, rfl⟩
    have asksVersions : Invocation.AsksVersions [] [.option "sink" "draft"] ["versions"] := by cbv
    obtain ⟨-, shows, -⟩ := @schema_shows_what_is_enforced drawer none [] _ _ _ _ _ _ _
      (List.forall_mem_nil _) (by decide) (by decide) asksShown asksIndented asksCheck asksVersions
    have isShown := shows checker past
    have stable : checker.setting.registry.library.IsStable := by
      obtain ⟨_, -, rfl⟩ := (Checker.make_eq_ok built).1 made
      rw [show Registry.library _ = _ from Registry.library_of_build built]
      exact Library.packaged_isStable
    exact ⟨checker, past, isShown.text, (isShown.indented stable).2.1⟩
  · have asksShown : Invocation.AsksSchema [] [.option "gateway-version" "9.9"] .service true
        ["schema", "--gateway-version", "9.9", "--compact", "--resource", "service"] :=
      ⟨[.option "gateway-version" "9.9", .flag "compact", .option "resource" "service"], by cbv,
        rfl, by decide⟩
    have asksIndented : Invocation.AsksSchema [] [.option "gateway-version" "9.9"] .service false
        ["schema", "--gateway-version", "9.9", "--resource", "service"] :=
      ⟨[.option "gateway-version" "9.9", .option "resource" "service"], by cbv, rfl, by decide⟩
    have asksCheck : Invocation.AsksCheck [] [.option "gateway-version" "9.9"] .service
        ["good.json"]
        ["validate", "--gateway-version", "9.9", "--resource", "service", "good.json"] :=
      ⟨[.option "gateway-version" "9.9", .option "resource" "service", .word "good.json"], by cbv,
        rfl, rfl, rfl⟩
    have asksVersions : Invocation.AsksVersions [] [.option "gateway-version" "9.9"]
        ["versions"] := by cbv
    obtain ⟨-, -, stops⟩ := @schema_shows_what_is_enforced drawer none [] _ _ _ _ _ _ _
      (List.forall_mem_nil _) (by decide) (by decide) asksShown asksIndented asksCheck asksVersions
    have unread : Invocation.ofTexts? none
        ["validate", "--gateway-version", "9.9", "--resource", "service", "good.json"] = none := by
      cbv
    refine (stops ?_ _ List.mem_cons_self).2
    rintro ⟨checker, _, _, read, -⟩
    rw [unread] at read
    cases read

end GatewayCheck
