import GatewayCheck.Proofs.Program
import GatewayCheck.Proofs.Dispatch
import GatewayCheck.Proofs.Packaged.Registry

/-!
The entries to a check. A document is checked by the checker at a path, by the checker of a kind, or
by a command that names a path; all three are the same checker, so they give the same verdicts.
-/
namespace GatewayCheck

/-! ### Reports -/

namespace Checker

variable {files : FileAccess Id} {checker : Checker} {file : String}

/-- What a check of files ends with. -/
def outcome (files : FileAccess Id) (checker : Checker) (paths : List String) : Outcome :=
  let report : Report := checker.report files paths
  ⟨report.lines, report.code⟩

/-- The report on files has the verdict on each of them, in their order. -/
theorem verdicts_report (files : FileAccess Id) (checker : Checker) (paths : List String) :
    (checker.report files paths : Report).verdicts =
      paths.map fun path => (path, checker.checkFile files path) := by
  change checker.checkFiles files paths = _
  induction paths with
  | nil => rfl
  | cons path rest ih =>
    rw [List.map_cons, ← ih]
    rfl

/-- The verdict on a file that holds a document is that of the check of the document. -/
theorem checkFile_eq_ofResult {content : Bytes} {document : Json}
    (read : files.read file = Except.ok content) (holds : Json.ofFile file content = .ok document) :
    checker.checkFile files file = Verdict.ofResult document.label (checker.check document) := by
  have verdict : checker.checkFile files file =
      checker.checkContent file content (files.complaint? content) := by
    rw [checkFile, read]
    rfl
  rw [verdict, checkContent, holds]

end Checker

/-! ### Commands -/

namespace ValidateCommand

variable {files : FileAccess Id} {config : Config} {command : ValidateCommand}

/-- A command that names a path and no kind is for the kind that the path names. -/
theorem target_eq_ok {path : String} (kindless : command.resource? = none)
    (located : command.path? = some path) {goal : Resource × String} :
    command.target = .ok goal ↔
      ∃ kind, Resource.ofPath? path = some kind ∧ (kind, path) = goal := by
  simp only [target, kindless, located, Except.bind_eq_ok, Except.mapError_eq_ok,
    Resource.parsePath, pure, Except.pure, Except.ok.injEq]
  refine exists_congr fun kind => and_congr_left fun _ => ?_
  cases Resource.ofPath? path <;> simp

/-- The checker of a command is made once the settings, the target and the registry are there. -/
theorem checker_eq_ok {checker : Checker} :
    ExceptT.run (command.checker files config) = .ok checker ↔
      ∃ settings target registry, config.settings command.choices = .ok settings ∧
        command.target = .ok target ∧ ExceptT.run (settings.registry files) = .ok registry ∧
        Checker.make registry settings.release target.1 target.2 settings.limit settings.sink =
          .ok checker := by
  rw [ValidateCommand.checker]
  simp only [run_bind_eq_ok, run_settle_eq_ok, exists_and_left]

/-- A command ends with the outcome of its checker. -/
theorem run_eq_ok {outcome : Outcome} :
    ExceptT.run (command.run files config) = .ok outcome ↔
      ∃ checker, ExceptT.run (command.checker files config) = .ok checker ∧
        checker.outcome files command.files = outcome := by
  rw [ValidateCommand.run, run_bind_eq_ok]
  refine exists_congr fun checker => and_congr_right fun _ => ?_
  exact ⟨fun done => Except.ok.inj done, fun same => congrArg Except.ok same⟩

/-- A command for a kind is the command for the path of the kind. -/
theorem run_kind {m : Type → Type} [Monad m] (files : FileAccess m) (config : Config)
    (command : ValidateCommand) (kind : Resource) :
    { command with resource? := some kind, path? := none }.run files config =
      { command with resource? := none, path? := some kind.path }.run files config := by
  have same : { command with resource? := some kind, path? := none }.target =
      { command with resource? := none, path? := some kind.path }.target := by
    simp only [target, Resource.parsePath, Resource.ofPath?_path]
    rfl
  simp only [run, checker, same]

end ValidateCommand

/-! ### Command lines -/

/-- A command line that asks to check files against the schema at a path, without naming a kind. It
settles on a release, the strict sink and a limit, and its schemas are those of a registry. -/
structure CommandLine (files : FileAccess Id) (environment? : Option String)
    (arguments : List String) (registry : Registry) (release : Release) (path : String)
    (limit : ReportLimit) (paths : List String) : Prop where
  asks : ∃ configPath? command config settings,
    Invocation.ofTexts? environment? arguments = some (.command configPath? (.validate command)) ∧
      ExceptT.run (Config.load files configPath?) = .ok config ∧
      command.resource? = none ∧ command.path? = some path ∧ command.files = paths ∧
      config.settings command.choices = .ok settings ∧
      settings.release = release ∧ settings.sink = .runtime ∧ settings.limit = limit ∧
      ExceptT.run (settings.registry files) = .ok registry

section CommandLines

variable {files : FileAccess Id} {environment? : Option String} {arguments : List String}
  {library : Library} {registry : Registry} {release : Release} {path : String}
  {limit : ReportLimit} {paths : List String}

/-- The program gets past its set-up exactly when there is a checker at the path, and then it
reports what this checker finds, up to its own limit. -/
theorem runProgram_eq_ok (built : Registry.build library = .ok registry)
    (line : CommandLine files environment? arguments registry release path limit paths)
    {outcome : Outcome} :
    runProgram files environment? arguments = Except.ok outcome ↔
      ∃ checker, Checker.atPath registry release path = .ok checker ∧
        { checker with limit := limit }.outcome files paths = outcome := by
  obtain ⟨configPath?, command, config, settings, parsed, loaded, kindless, located, rfl, settled,
    rfl, strict, rfl, schemas⟩ := line.asks
  have made (checker : Checker) : ExceptT.run (command.checker files config) = .ok checker ↔
      ∃ first, Checker.atPath registry settings.release path = .ok first ∧
        { first with limit := settings.limit } = checker := by
    rw [ValidateCommand.checker_eq_ok]
    simp only [Checker.atPath_eq_ok built, ValidateCommand.target_eq_ok kindless located]
    constructor
    · rintro ⟨_, _, _, again, ⟨kind, named, rfl⟩, same, made⟩
      obtain rfl := Except.ok.inj (settled.symm.trans again)
      obtain rfl := Except.ok.inj (schemas.symm.trans same)
      rw [strict, Checker.make_with_limit .fallback] at made
      obtain ⟨first, own, limited⟩ := Except.map_eq_ok.1 made
      exact ⟨first, ⟨kind, named, own⟩, limited⟩
    · rintro ⟨first, ⟨kind, named, own⟩, limited⟩
      refine ⟨settings, (kind, path), registry, settled, ⟨kind, named, rfl⟩, schemas, ?_⟩
      rw [strict, Checker.make_with_limit .fallback]
      exact Except.map_eq_ok.2 ⟨first, own, limited⟩
  rw [runProgram_command parsed loaded, Command.run, ValidateCommand.run_eq_ok]
  simp only [made]
  constructor
  · rintro ⟨_, ⟨first, own, rfl⟩, same⟩
    exact ⟨first, own, same⟩
  · rintro ⟨first, own, same⟩
    exact ⟨_, ⟨first, own, rfl⟩, same⟩

end CommandLines

/-- A command line does what the checker at a path does: it succeeds where there is one, with its
verdicts, and where there is none it prints nothing and fails. -/
structure FollowsPath (files : FileAccess Id) (environment? : Option String)
    (arguments : List String) (registry : Registry) (release : Release) (path : String)
    (limit : ReportLimit) (paths : List String) : Prop where
  succeeds : ∀ outcome, runProgram files environment? arguments = Except.ok outcome ↔
    ∃ checker, Checker.atPath registry release path = .ok checker ∧
      { checker with limit := limit }.outcome files paths = outcome
  verdicts : limit = .fallback → ∀ checker, Checker.atPath registry release path = .ok checker →
    runProgram files environment? arguments = Except.ok (checker.outcome files paths) ∧
      ∀ file ∈ paths, ∀ content document, files.read file = Except.ok content →
        Json.ofFile file content = .ok document →
          (file, Verdict.ofResult document.label (checker.check document)) ∈
            (checker.report files paths : Report).verdicts
  fails : ∀ error, Checker.atPath registry release path = .error error →
    (Ending.ofResult (runProgram files environment? arguments)).output = "" ∧
      (Ending.ofResult (runProgram files environment? arguments)).code = 2

/-- The checker at a path, the checker of the kind that the path names and the command line that
names the path are one checker, and where there is none the first reason that holds says why. A
command for a kind does what the command for the path of the kind does. -/
theorem entries_agree {library : Library} {registry : Registry}
    (built : Registry.build library = .ok registry) (release : Release) (path : String) :
    (∀ checker, Checker.atPath registry release path = .ok checker ↔
        ∃ kind, Resource.ofPath? path = some kind ∧
          Checker.make registry release kind path .fallback .runtime = .ok checker) ∧
      (∀ error, Checker.atPath registry release path = .error error ↔
        Checker.Undispatched library release path error) ∧
      (∀ files environment? arguments limit paths,
        CommandLine files environment? arguments registry release path limit paths →
          FollowsPath files environment? arguments registry release path limit paths) ∧
      ∀ (m : Type → Type) [Monad m] (files : FileAccess m) (config : Config)
        (command : ValidateCommand) (kind : Resource),
        { command with resource? := some kind, path? := none }.run files config =
          { command with resource? := none, path? := some kind.path }.run files config := by
  refine ⟨fun checker => Checker.atPath_eq_ok built, fun error => Checker.atPath_eq_error built,
    fun files environment? arguments limit paths line => ⟨fun outcome => runProgram_eq_ok built line,
      ?_, ?_⟩, fun m _ files config command kind => command.run_kind files config kind⟩
  · rintro rfl checker made
    obtain ⟨kind, -, own⟩ := (Checker.atPath_eq_ok built).1 made
    obtain ⟨fragment, -, rfl⟩ := (Checker.make_eq_ok built).1 own
    refine ⟨(runProgram_eq_ok built line).2 ⟨_, made, rfl⟩, ?_⟩
    intro file listed content document read holds
    rw [Checker.verdicts_report, ← Checker.checkFile_eq_ofResult read holds]
    exact List.mem_map.2 ⟨file, listed, rfl⟩
  · intro error failed
    cases ended : (runProgram files environment? arguments : Except Failure Outcome) with
    | error failure => exact ⟨rfl, rfl⟩
    | ok outcome =>
      obtain ⟨checker, made, -⟩ := (runProgram_eq_ok built line).1 ended
      rw [failed] at made
      cases made

/-- A directory with one service that is no service. -/
def shelf : FileAccess Id :=
  (FileTree.directory [("service.json", .file (Text.encode "[]"))]).access

/-- A command line that names the path of services follows the checker of services. -/
theorem service_entries_agree : ∃ registry checker,
    Registry.build Library.packaged = .ok registry ∧
      Checker.make registry .v3_13 .service "main.service" .fallback .runtime = .ok checker ∧
      CommandLine shelf none ["validate", "--path", "main.service", "service.json"] registry .v3_13
        "main.service" .fallback ["service.json"] ∧
      runProgram shelf none ["validate", "--path", "main.service", "service.json"] =
        Except.ok (checker.outcome shelf ["service.json"]) := by
  obtain ⟨registry, built⟩ := Packaged.exists_build
  obtain ⟨checker, made, -⟩ :=
    Packaged.make_kind built .v3_13 .service .fallback .runtime
  have schemas : ExceptT.run (Settings.registry shelf ⟨.v3_13, .runtime, none, .fallback⟩) =
      Except.ok registry := run_settle_eq_ok.2 built
  have line : CommandLine shelf none ["validate", "--path", "main.service", "service.json"] registry
      .v3_13 "main.service" .fallback ["service.json"] :=
    ⟨none, ⟨.none, none, some "main.service", ["service.json"]⟩, .empty,
      ⟨.v3_13, .runtime, none, .fallback⟩, rfl, rfl, rfl, rfl, rfl, rfl, rfl, rfl, rfl, schemas⟩
  obtain ⟨dispatched, -, follows, -⟩ := entries_agree built .v3_13 "main.service"
  have located := (dispatched checker).2 ⟨.service, Resource.ofPath?_path .service, made⟩
  exact ⟨registry, checker, built, made, line,
    ((follows _ _ _ _ _ line).verdicts rfl checker located).1⟩

end GatewayCheck
