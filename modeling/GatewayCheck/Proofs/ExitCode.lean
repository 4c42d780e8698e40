import Mathlib
import GatewayCheck.Proofs.Report

/-!
Exit codes. A command that checks files stops before it looks at a file, and then it prints nothing,
or it has a checker and reports on every file. The exit code says which: two for a file without a
verdict, one for a file that is refused, and zero when every file passes.
-/
namespace GatewayCheck

/-! ### Set-up -/

namespace ValidateCommand

/-- A command gets past its set-up with a checker. -/
def IsSetUp (files : FileAccess Id) (configPath? : Option String) (command : ValidateCommand)
    (checker : Checker) : Prop :=
  ∃ config, ExceptT.run (Config.load files configPath?) = .ok config ∧
    ExceptT.run (command.checker files config) = .ok checker

/-- Why a command stops before it looks at a file: a configuration that is not there or is none, a
release that is not known, a kind that is not given or not known, schemas that are not there or do
not compile, and a schema that is not there or does not compile. -/
inductive Stops (files : FileAccess Id) (configPath? : Option String) (command : ValidateCommand) :
    Failure → Prop
  | configuration {failure : Failure}
    (unloaded : ExceptT.run (Config.load files configPath?) = .error failure) :
    Stops files configPath? command failure
  | settings {config : Config} {error : SettingsError}
    (loaded : ExceptT.run (Config.load files configPath?) = .ok config)
    (unsettled : config.settings command.choices = .error error) :
    Stops files configPath? command (.settings error)
  | target {config : Config} {settings : Settings} {failure : Failure}
    (loaded : ExceptT.run (Config.load files configPath?) = .ok config)
    (settled : config.settings command.choices = .ok settings)
    (aimless : command.target = .error failure) : Stops files configPath? command failure
  | schemas {config : Config} {settings : Settings} {goal : Resource × String} {failure : Failure}
    (loaded : ExceptT.run (Config.load files configPath?) = .ok config)
    (settled : config.settings command.choices = .ok settings)
    (aimed : command.target = .ok goal)
    (unbuilt : ExceptT.run (settings.registry files) = .error failure) :
    Stops files configPath? command failure
  | schema {config : Config} {settings : Settings} {goal : Resource × String} {registry : Registry}
    {error : SetupError} (loaded : ExceptT.run (Config.load files configPath?) = .ok config)
    (settled : config.settings command.choices = .ok settings)
    (aimed : command.target = .ok goal)
    (built : ExceptT.run (settings.registry files) = .ok registry)
    (unmade : Checker.make registry settings.release goal.1 goal.2 settings.limit settings.sink =
      .error error) : Stops files configPath? command (.setup error)

variable {files : FileAccess Id} {environment? configPath? : Option String}
  {arguments : List String} {command : ValidateCommand}

/-- A command with a checker ends with the report of the checker on its files. -/
theorem runProgram_of_isSetUp {checker : Checker}
    (parsed : Invocation.ofTexts? environment? arguments =
      some (.command configPath? (.validate command)))
    (ready : command.IsSetUp files configPath? checker) :
    runProgram files environment? arguments = Except.ok (checker.outcome files command.files) := by
  obtain ⟨config, loaded, made⟩ := ready
  rw [runProgram_command parsed loaded]
  exact run_eq_ok.2 ⟨checker, made, rfl⟩

/-- There is no checker for the settings, the target, the schemas or the one schema that fails
first. -/
theorem checker_eq_error {config : Config} {failure : Failure}
    (loaded : ExceptT.run (Config.load files configPath?) = .ok config)
    (failed : ExceptT.run (command.checker files config) = .error failure) :
    command.Stops files configPath? failure := by
  unfold checker at failed
  obtain failed | ⟨settings, settled, failed⟩ := run_bind_eq_error.1 failed
  · obtain ⟨error, unsettled, rfl⟩ := run_settle_eq_error.1 failed
    exact .settings loaded unsettled
  have settled := run_settle_eq_ok.1 settled
  obtain failed | ⟨goal, aimed, failed⟩ := run_bind_eq_error.1 failed
  · obtain ⟨_, aimless, rfl⟩ := run_settle_eq_error.1 failed
    exact .target loaded settled aimless
  have aimed := run_settle_eq_ok.1 aimed
  obtain unbuilt | ⟨registry, built, failed⟩ := run_bind_eq_error.1 failed
  · exact .schemas loaded settled aimed unbuilt
  · obtain ⟨error, unmade, rfl⟩ := run_settle_eq_error.1 failed
    exact .schema loaded settled aimed built unmade

/-- A command fails exactly when it stops before it looks at a file. -/
theorem runProgram_eq_error {failure : Failure}
    (parsed : Invocation.ofTexts? environment? arguments =
      some (.command configPath? (.validate command))) :
    runProgram files environment? arguments = Except.error failure ↔
      command.Stops files configPath? failure := by
  rw [runProgram_eq parsed]
  change ExceptT.run (Config.load files configPath? >>= fun config => command.run files config) =
    _ ↔ _
  rw [run_bind_eq_error]
  constructor
  · rintro (unloaded | ⟨config, loaded, failed⟩)
    · exact .configuration unloaded
    · obtain failed | ⟨_, -, failed⟩ := run_bind_eq_error.1 failed
      · exact checker_eq_error loaded failed
      · cases failed
  · intro stops
    -- whatever comes before the step that fails succeeds
    have without (config : Config) (loaded : ExceptT.run (Config.load files configPath?) = .ok config)
        (unmade : ExceptT.run (command.checker files config) = .error failure) :
        ∃ config, ExceptT.run (Config.load files configPath?) = .ok config ∧
          ExceptT.run (command.run files config) = .error failure :=
      ⟨config, loaded, run_bind_eq_error.2 (.inl unmade)⟩
    cases stops with
    | configuration unloaded => exact .inl unloaded
    | settings loaded unsettled =>
      refine .inr (without _ loaded (run_bind_eq_error.2 (.inl ?_)))
      exact run_settle_eq_error.2 ⟨_, unsettled, rfl⟩
    | target loaded settled aimless =>
      refine .inr (without _ loaded ?_)
      refine run_bind_eq_error.2 (.inr ⟨_, run_settle_eq_ok.2 settled, ?_⟩)
      exact run_bind_eq_error.2 (.inl (run_settle_eq_error.2 ⟨_, aimless, rfl⟩))
    | schemas loaded settled aimed unbuilt =>
      refine .inr (without _ loaded ?_)
      refine run_bind_eq_error.2 (.inr ⟨_, run_settle_eq_ok.2 settled, ?_⟩)
      refine run_bind_eq_error.2 (.inr ⟨_, run_settle_eq_ok.2 aimed, ?_⟩)
      exact run_bind_eq_error.2 (.inl unbuilt)
    | schema loaded settled aimed built unmade =>
      refine .inr (without _ loaded ?_)
      refine run_bind_eq_error.2 (.inr ⟨_, run_settle_eq_ok.2 settled, ?_⟩)
      refine run_bind_eq_error.2 (.inr ⟨_, run_settle_eq_ok.2 aimed, ?_⟩)
      refine run_bind_eq_error.2 (.inr ⟨_, built, ?_⟩)
      exact run_settle_eq_error.2 ⟨_, unmade, rfl⟩

end ValidateCommand

/-! ### Packaged schemas -/

namespace Packaged

section Made

variable {files : FileAccess Id} {registry : Registry} {release : Release} {kind : Resource}
  {path : String} {limit : ReportLimit} {sink : Sink} {checker : Checker}

/-- Over the packaged schemas a document is rejected for its structure or for a rule. -/
theorem category_of_check (built : Registry.build Library.packaged = .ok registry)
    (made : Checker.make registry release kind path limit sink = .ok checker) {document : Json}
    {rejection : Rejection} (failed : checker.check document = .error rejection) :
    rejection.category = .schema ∨ rejection.category = .semantic := by
  obtain schema | semantic | ⟨place, listed, lacks, -⟩ :=
    Registry.rejection_of_build built made failed
  · exact .inl schema
  · exact .inr semantic
  -- both schemas of hash keys are there
  · obtain ⟨fragment, compiled⟩ := compile_keyPath release listed
    obtain ⟨schema, -, found, -⟩ := Library.compile_eq_ok.1 compiled
    have missing := Library.fragment_eq_error.2 (.inr ⟨lacks, rfl⟩)
    rw [found] at missing
    cases missing

/-- Over the packaged schemas only a file that cannot be read has no verdict. -/
theorem blocks_iff (built : Registry.build Library.packaged = .ok registry)
    (made : Checker.make registry release kind path limit sink = .ok checker) (file : String) :
    checker.Blocks files file ↔ files.IsUnreadable file := by
  refine ⟨fun blocks => ?_, .unreadable⟩
  cases blocks with
  | unreadable failed => exact failed
  | faulty read holds failed fault =>
    obtain category | category := category_of_check built made failed
    · rw [category] at fault
      rcases fault with fault | fault <;> cases fault
    · rw [category] at fault
      rcases fault with fault | fault <;> cases fault

end Made

end Packaged

/-! ### Exit codes of programs -/

/-- The exit codes of a checker: what each code says of the files, which lists have the same code,
the code of two lists together, and what is printed: the lines on every file in the given order, and
for several files the number of those that pass. -/
structure Checker.HasExitCodes (files : FileAccess Id) (checker : Checker) : Prop where
  blocked : ∀ paths, (checker.outcome files paths).code = 2 ↔
    ∃ path ∈ paths, checker.Blocks files path
  refused : ∀ paths, (checker.outcome files paths).code = 1 ↔
    (¬ ∃ path ∈ paths, checker.Blocks files path) ∧ ∃ path ∈ paths, checker.Refuses files path
  passed : ∀ paths, (checker.outcome files paths).code = 0 ↔
    ∀ path ∈ paths, checker.Passes files path
  unordered : ∀ first second, (∀ path, path ∈ first ↔ path ∈ second) →
    (checker.outcome files first).code = (checker.outcome files second).code
  together : ∀ first second, (checker.outcome files (first ++ second)).code =
    max (checker.outcome files first).code (checker.outcome files second).code
  verdicts : ∀ paths, (checker.report files paths : Report).verdicts =
    paths.map fun path => (path, checker.checkFile files path)
  lines : ∀ paths, (checker.outcome files paths).lines =
    paths.flatMap (checker.linesOn files) ++ checker.summaryOf files paths
  counted : ∀ path, (checker.checkFile files path : Verdict).isPass = true ↔
    checker.Passes files path

/-- A command line that asks to check files stops with code two before it looks at a file, and then
it prints nothing, or it has a checker and reports on its files. The exit code of a report says
whether there is a verdict on every file and whether every file passes; over the packaged schemas
only a file that cannot be read has no verdict. -/
theorem exit_codes_say_what_happened (files : FileAccess Id) :
    (∀ checker : Checker, checker.HasExitCodes files) ∧
      (∀ registry, Registry.build .packaged = .ok registry →
        ∀ release kind path limit sink checker,
          Checker.make registry release kind path limit sink = .ok checker →
            ∀ paths, (checker.outcome files paths).code = 2 ↔
              ∃ path ∈ paths, files.IsUnreadable path) ∧
      ∀ environment? arguments configPath? command,
        Invocation.ofTexts? environment? arguments =
            some (.command configPath? (.validate command)) →
          (∀ checker, command.IsSetUp files configPath? checker →
            Ending.ofResult (runProgram files environment? arguments) =
              ⟨(checker.outcome files command.files).text, "",
                (checker.outcome files command.files).code⟩) ∧
          (∀ failure, runProgram files environment? arguments = Except.error failure ↔
            command.Stops files configPath? failure) ∧
          ∀ failure, command.Stops files configPath? failure →
            Ending.ofResult (runProgram files environment? arguments) =
              ⟨"", failure.message ++ "\n", 2⟩ := by
  refine ⟨fun checker => ?_, ?_, ?_⟩
  · exact {
      blocked := fun paths => Checker.code_outcome_eq_two
      refused := fun paths => Checker.code_outcome_eq_one
      passed := fun paths => Checker.code_outcome_eq_zero
      unordered := fun first second => Checker.code_outcome_congr
      together := Checker.code_outcome_append
      verdicts := Checker.verdicts_report files checker
      lines := Checker.lines_outcome files checker
      counted := fun path => Checker.isPass_iff }
  · intro registry built release kind path limit sink checker made paths
    rw [Checker.code_outcome_eq_two]
    simp only [Packaged.blocks_iff built made]
  · intro environment? arguments configPath? command parsed
    refine ⟨fun checker ready => ?_, fun failure => ValidateCommand.runProgram_eq_error parsed,
      fun failure stops => ?_⟩
    · rw [ValidateCommand.runProgram_of_isSetUp parsed ready]
      rfl
    · rw [(ValidateCommand.runProgram_eq_error parsed).2 stops]
      rfl

/-- A directory with metadata of a plugin and a list. -/
def drawer : FileAccess Id :=
  (FileTree.directory [("good.json", .file (Text.encode "\x7b\"id\":\"a\"\x7d")),
    ("bad.json", .file (Text.encode "[]"))]).access

/-- The directory has metadata of a plugin. -/
theorem drawer_good : Json.ofFile "good.json" (Text.encode "\x7b\"id\":\"a\"\x7d") =
    .ok (.object [("id", .string "a")]) := by
  have text : Json.ofBytes (Text.encode "\x7b\"id\":\"a\"\x7d") =
      .ok (.object [("id", .string "a")]) := by cbv
  rw [Json.ofFile_eq_ofBytes (by decide +kernel), text]
  rfl

/-- A command for metadata of plugins is set up over the packaged schemas. Its checker passes what
has an id and nothing else, and no list. -/
theorem Packaged.metadata_is_set_up (files : FileAccess Id) : ∃ registry checker,
    Registry.build Library.packaged = .ok registry ∧
      Checker.make registry .v3_13 .pluginMetadata Resource.pluginMetadata.path .fallback .runtime =
        .ok checker ∧
      (∀ paths, ValidateCommand.IsSetUp files none
        ⟨.none, some .pluginMetadata, none, paths⟩ checker) ∧
      (∀ id, checker.check (.object [("id", .string id)]) = .ok ()) ∧
      ∃ first others, checker.check (.array []) = .error (.structural first others) := by
  obtain ⟨registry, built⟩ := Packaged.exists_build
  obtain ⟨checker, made, kind, -, accepts⟩ :=
    Packaged.make_kind built .v3_13 .pluginMetadata .fallback .runtime
  have schemas : ExceptT.run (Settings.registry files ⟨.v3_13, .runtime, none, .fallback⟩) =
      Except.ok registry := run_settle_eq_ok.2 built
  refine ⟨registry, checker, built, made, fun paths => ?_, fun id => ?_, ?_⟩
  · exact ⟨.empty, rfl, ValidateCommand.checker_eq_ok.2 ⟨_, _, registry, rfl, rfl, schemas, made⟩⟩
  · have structured : checker.checkStructure (.object [("id", .string id)]) = .ok () :=
      (accepts _).2 rfl
    have ruled : Rule.checkAll checker.setting (.object [("id", .string id)])
        checker.kind.rules = .ok () := by
      rw [kind]
      rfl
    exact Checker.check_eq_ok.2 ⟨structured, ruled⟩
  · have wrong : checker.checkStructure (.array []) ≠ .ok () := by
      rw [Ne, accepts]
      exact Bool.false_ne_true
    exact Checker.check_of_refused wrong

/-- Metadata of a plugin passes, a list does not, and a file that is missing has no verdict. Without
a kind nothing is checked. -/
theorem exit_codes_of_drawer : ∃ checker : Checker,
    (checker.outcome drawer ["good.json"]).code = 0 ∧
      Ending.ofResult (runProgram drawer none
        ["validate", "--resource", "plugin_metadata", "good.json", "bad.json"]) =
          ⟨(checker.outcome drawer ["good.json", "bad.json"]).text, "", 1⟩ ∧
      (checker.outcome drawer ["bad.json", "missing.json"]).code = 2 ∧
      Ending.ofResult (runProgram drawer none ["validate", "good.json"]) =
        ⟨"", "either --resource or --path is required\n", 2⟩ := by
  obtain ⟨registry, checker, built, made, ready, passes, first, others, failed⟩ :=
    Packaged.metadata_is_set_up drawer
  have good : checker.Passes drawer "good.json" := by
    have read : drawer.read "good.json" =
        Except.ok (Text.encode "\x7b\"id\":\"a\"\x7d") := rfl
    exact .accepted read drawer_good (passes "a")
  have bad : checker.Refuses drawer "bad.json" := by
    have document : Json.ofFile "bad.json" (Text.encode "[]") = .ok (.array []) := rfl
    have read : drawer.read "bad.json" = Except.ok (Text.encode "[]") := rfl
    exact .rejected read document failed (.inl rfl)
  have missing : drawer.IsUnreadable "missing.json" := ⟨.missing, rfl⟩
  have stops : ValidateCommand.Stops drawer none ⟨.none, none, none, ["good.json"]⟩ .noKind :=
    @ValidateCommand.Stops.target _ _ _ .empty _ _ rfl rfl rfl
  have parsed : Invocation.ofTexts? none
      ["validate", "--resource", "plugin_metadata", "good.json", "bad.json"] =
        some (.command none (.validate
          ⟨.none, some .pluginMetadata, none, ["good.json", "bad.json"]⟩)) := by cbv
  have kindless : Invocation.ofTexts? none ["validate", "good.json"] =
      some (.command none (.validate ⟨.none, none, none, ["good.json"]⟩)) := rfl
  obtain ⟨codes, packaged, programs⟩ := exit_codes_say_what_happened drawer
  obtain ⟨reports, -, -⟩ := programs none _ none _ parsed
  obtain ⟨-, -, silent⟩ := programs none _ none _ kindless
  have one : (checker.outcome drawer ["good.json", "bad.json"]).code = 1 := by
    refine ((codes checker).refused _).2 ⟨?_, "bad.json", by simp, bad⟩
    rintro ⟨path, listed, blocks⟩
    obtain ⟨error, failed⟩ := (Packaged.blocks_iff built made path).1 blocks
    simp only [List.mem_cons, List.not_mem_nil, or_false] at listed
    rcases listed with rfl | rfl <;> cases failed
  refine ⟨checker, ((codes checker).passed _).2 (by simpa using good), ?_, ?_, ?_⟩
  · rw [reports checker (ready _), one]
  · exact (packaged registry built _ _ _ _ _ checker made _).2 ⟨_, by simp, missing⟩
  · exact silent _ stops

end GatewayCheck
