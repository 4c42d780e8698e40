import GatewayCheck.Proofs.Packaged.Registry
import GatewayCheck.Proofs.ReportLimit
import GatewayCheck.Proofs.Schema.Reach

/-!
The option that limits reports. Command lines that differ in this option alone end with the same
exit code and the same complaint, and they print the same lines on the same files, of which one may
have more details below. A detail that quotes a key with a line break brings a status line with it.
-/
namespace GatewayCheck

/-! ### Command lines without the option -/

/-- The option that limits reports. -/
def Argument.isLimit : Argument → Bool
  | option name _ => name == "max-violations"
  | _ => false

/-- A command line without the option that limits reports. -/
def Argument.withoutLimit (parts : List Argument) : List Argument :=
  parts.filter fun part => !part.isLimit

/-- Choices without a limit of reports. -/
def Choices.unlimited (choices : Choices) : Choices := { choices with limit? := .none }

namespace Given

/-- What is given, without a limit of reports. -/
def unlimited (given : Given) : Given := { given with choices := given.choices.unlimited }

variable {given after : Given} {part : Argument}

/-- What every place allows is taken without regard to a limit. -/
theorem takeShared?_unlimited (given : Given) (part : Argument) :
    given.unlimited.takeShared? part = (given.takeShared? part).map unlimited := by
  rw [takeShared?.eq_def, takeShared?.eq_def]
  split <;> simp [unlimited, Choices.unlimited, Option.map_map, Function.comp_def]

/-- The names of the release, the sink and the kind are taken without regard to a limit. -/
theorem takeTarget?_unlimited (given : Given) (part : Argument) :
    given.unlimited.takeTarget? part = (given.takeTarget? part).map unlimited := by
  rw [takeTarget?.eq_def, takeTarget?.eq_def]
  split
  · simp [unlimited, Choices.unlimited, Option.map_map, Function.comp_def]
  · simp [unlimited, Choices.unlimited, Option.map_map, Function.comp_def]
  · simp [unlimited, Option.map_map, Function.comp_def]
  · exact takeShared?_unlimited given part

/-- The command that prints a schema has no regard to a limit. -/
theorem takeSchema?_unlimited (given : Given) (part : Argument) :
    given.unlimited.takeSchema? part = (given.takeSchema? part).map unlimited := by
  rw [takeSchema?.eq_def, takeSchema?.eq_def]
  split
  · cases compact : given.isCompact <;> simp [unlimited, compact]
  · exact takeTarget?_unlimited given part

/-- The command that checks documents takes all but the limit without regard to it. -/
theorem takeValidate?_unlimited (given : Given) (other : part.isLimit = false) :
    given.unlimited.takeValidate? part = (given.takeValidate? part).map unlimited := by
  rw [takeValidate?.eq_def, takeValidate?.eq_def]
  split
  · simp [unlimited, Option.map_map, Function.comp_def]
  · cases other
  · simp [takeFile?, unlimited, Option.map_map, Function.comp_def]
  · simp [takeFile?, unlimited, Option.map_map, Function.comp_def]
  · exact takeTarget?_unlimited given part

/-- Every command takes all but the limit without regard to it. -/
theorem take?_unlimited (given : Given) (name : CommandName) (other : part.isLimit = false) :
    given.unlimited.take? name part = (given.take? name part).map unlimited := by
  cases name with
  | validate => exact takeValidate?_unlimited given other
  | schema => exact takeSchema?_unlimited given part
  | versions => exact takeShared?_unlimited given part

/-- The limit is not allowed everywhere. -/
theorem takeShared?_of_isLimit (given : Given) (limit : part.isLimit = true) :
    given.takeShared? part = none := by
  cases part with
  | option name value =>
    rw [eq_of_beq limit]
    rfl
  | flag | word | literal | malformed => cases limit

/-- Taking the limit changes nothing else. -/
theorem unlimited_of_isLimit {name : CommandName} (limit : part.isLimit = true)
    (taken : given.take? name part = some after) : after.unlimited = given.unlimited := by
  cases part with
  | option option value =>
    rw [eq_of_beq limit] at taken
    cases name with
    | validate =>
      obtain ⟨count, -, rfl⟩ := Option.map_eq_some_iff.1 taken
      rfl
    | schema | versions => cases taken
  | flag | word | literal | malformed => cases limit

/-- Without the limit, the parts of a command are taken to the same end. -/
theorem foldlM_withoutLimit {name : CommandName} {parts : List Argument}
    (taken : parts.foldlM (fun given part => given.take? name part) given = some after) :
    (Argument.withoutLimit parts).foldlM (fun given part => given.take? name part)
      given.unlimited = some after.unlimited := by
  induction parts generalizing given with
  | nil =>
    cases taken
    rfl
  | cons part rest ih =>
    obtain ⟨next, here, taken⟩ := Option.bind_eq_some_iff.1 taken
    have here : given.take? name part = some next := here
    cases limit : part.isLimit with
    | true =>
      rw [Argument.withoutLimit, List.filter_cons_of_neg (by simp [limit]),
        ← unlimited_of_isLimit limit here]
      exact ih taken
    | false =>
      rw [Argument.withoutLimit, List.filter_cons_of_pos (by simp [limit]), List.foldlM_cons,
        take?_unlimited given name limit, here]
      exact ih taken

end Given

/-- A check without a limit of reports. -/
def ValidateCommand.unlimited (command : ValidateCommand) : ValidateCommand :=
  { command with choices := command.choices.unlimited }

/-- Checks that differ in their limits are of the same files. -/
theorem ValidateCommand.files_of_unlimited {first second : ValidateCommand}
    (same : first.unlimited = second.unlimited) : first.files = second.files := by
  show first.unlimited.files = second.unlimited.files
  rw [same]

/-- A command without a limit of reports. -/
def Command.unlimited : Command → Command
  | validate command => validate command.unlimited
  | schema command => schema { command with choices := command.choices.unlimited }
  | versions choices => versions choices.unlimited

/-- What is given without a limit is the same command without a limit. -/
theorem Given.command?_unlimited (inner : Given) (outer : Choices) (name : CommandName) :
    inner.unlimited.command? outer.unlimited name =
      (inner.command? outer name).map Command.unlimited := by
  cases name with
  | validate =>
    rw [command?, command?, apply_ite (Option.map Command.unlimited)]
    rfl
  | schema =>
    rw [command?, command?, Option.map_map]
    rfl
  | versions => rfl

namespace Invocation

/-- What a command line asks for, without a limit of reports. -/
def unlimited : Invocation → Invocation
  | version => version
  | command path? request => command path? request.unlimited

variable {environment? : Option String} {outer : Given} {parts : List Argument}
  {invocation : Invocation}

/-- Without the limit, the parts behind the name of a command ask for the same. -/
theorem readCommand?_withoutLimit {name : CommandName}
    (understood : readCommand? environment? outer name parts = some invocation) :
    readCommand? environment? outer.unlimited name (Argument.withoutLimit parts) =
      some invocation.unlimited := by
  obtain ⟨inner, taken, understood⟩ := Option.bind_eq_some_iff.1 understood
  obtain ⟨path?, found, understood⟩ := Option.bind_eq_some_iff.1 understood
  obtain ⟨request, asked, same⟩ := Option.bind_eq_some_iff.1 understood
  cases same
  have asked : inner.unlimited.command? outer.unlimited.choices name = some request.unlimited := by
    have same := inner.command?_unlimited outer.choices name
    rwa [asked] at same
  exact Option.bind_eq_some_iff.2 ⟨_, Given.foldlM_withoutLimit taken,
    Option.bind_eq_some_iff.2 ⟨path?, found, Option.bind_eq_some_iff.2 ⟨_, asked, rfl⟩⟩⟩

/-- Without the limit, a command line asks for the same. -/
theorem read?_withoutLimit (understood : read? environment? outer parts = some invocation) :
    read? environment? outer.unlimited (Argument.withoutLimit parts) =
      some invocation.unlimited := by
  induction outer, parts using read?.induct with
  | case1 => cases understood
  | case2 outer rest =>
    cases understood
    rfl
  | case3 outer text rest =>
    obtain ⟨name, named, understood⟩ := Option.bind_eq_some_iff.1 understood
    exact Option.bind_eq_some_iff.2 ⟨name, named, readCommand?_withoutLimit understood⟩
  | case4 outer part rest flag word ih =>
    have step (given : Given) (others : List Argument) :
        read? environment? given (part :: others) =
          (given.takeShared? part).bind fun given => read? environment? given others := by
      rw [read?]
      · rfl
      · exact flag
      · exact word
    rw [step] at understood
    obtain ⟨next, here, understood⟩ := Option.bind_eq_some_iff.1 understood
    cases limit : part.isLimit with
    | true =>
      rw [Given.takeShared?_of_isLimit outer limit] at here
      cases here
    | false =>
      have taken : outer.unlimited.takeShared? part = some next.unlimited := by
        rw [Given.takeShared?_unlimited, here, Option.map_some]
      rw [Argument.withoutLimit, List.filter_cons_of_pos (by simp [limit]), step]
      exact Option.bind_eq_some_iff.2 ⟨_, taken, ih next understood⟩

end Invocation

/-! ### Runs with a limit -/

/-- The limit that choices over a configuration settle on. -/
def Config.limitOf (config : Config) (choices : Choices) : ReportLimit :=
  ((choices.limit?.or config.limit?).map ReportLimit.mk).getD .fallback

/-- Choices settle on the same without a limit, apart from the limit. -/
theorem Config.settings_eq (config : Config) (choices : Choices) :
    config.settings choices = (config.settings choices.unlimited).map fun settings =>
      { settings with limit := config.limitOf choices } := by
  have same : choices.unlimited.release? = choices.release? := rfl
  rw [settings, settings, same]
  cases choices.release?.elim config.release .ok <;> rfl

variable {files : FileAccess Id} {config : Config}

namespace ValidateCommand

/-- The checker of a command for settings. -/
def checkerFor (files : FileAccess Id) (command : ValidateCommand) (settings : Settings) :
    ExceptT Failure Id Checker := do
  let goal ← settle id command.target
  let registry ← settings.registry files
  settle .setup (Checker.make registry settings.release goal.1 goal.2 settings.limit settings.sink)

/-- The checker of a command is the one for its settings. -/
theorem checker_eq (command : ValidateCommand) : command.checker files config =
    settle .settings (config.settings command.choices) >>= command.checkerFor files := rfl

/-- The checker for settings with another limit is the same checker with this limit. -/
theorem checkerFor_with_limit (command : ValidateCommand) (settings : Settings)
    (limit : ReportLimit) : ExceptT.run (command.checkerFor files { settings with limit }) =
      (ExceptT.run (command.checkerFor files settings)).map fun checker =>
        { checker with limit } := by
  refine run_bind_map fun goal => run_bind_map fun registry => ?_
  rw [run_settle, run_settle, Checker.make_with_limit settings.limit limit]
  cases Checker.make registry settings.release goal.1 goal.2 settings.limit settings.sink <;> rfl

/-- The checker of a command is that of the command without a limit, apart from the limit. -/
theorem run_checker_unlimited (command : ValidateCommand) :
    ExceptT.run (command.checker files config) =
      (ExceptT.run (command.unlimited.checker files config)).map fun checker =>
        { checker with limit := config.limitOf command.choices } := by
  have own : config.settings command.unlimited.choices =
      config.settings command.choices.unlimited := rfl
  rw [checker_eq, checker_eq, config.settings_eq command.choices, own]
  cases config.settings command.choices.unlimited with
  | error => rfl
  | ok settings => exact checkerFor_with_limit command settings _

/-- A command ends with the report of the checker of the command without a limit, apart from the
limit. -/
theorem run_unlimited (command : ValidateCommand) :
    ExceptT.run (command.run files config) =
      (ExceptT.run (command.unlimited.checker files config)).map fun checker =>
        { checker with limit := config.limitOf command.choices }.outcome files command.files := by
  have same := @run_checker_unlimited files config command
  cases made : ExceptT.run (command.unlimited.checker files config) with
  | error failure =>
    rw [made] at same
    exact run_bind_eq_error.2 (.inl same)
  | ok checker =>
    rw [made] at same
    exact run_eq_ok.2 ⟨_, same, rfl⟩

end ValidateCommand

/-- A request for a schema has no regard to a limit. -/
theorem SchemaCommand.run_unlimited (command : SchemaCommand) :
    ExceptT.run (command.run files config) = ExceptT.run
      ({ command with choices := command.choices.unlimited }.run files config) := by
  have same : command.fragment files config =
      { command with choices := command.choices.unlimited }.fragment files config := by
    unfold fragment
    rw [config.settings_eq command.choices]
    cases config.settings command.choices.unlimited <;> rfl
  rw [run, run, same]

/-- The list of releases has no regard to a limit. -/
theorem listVersions_unlimited (choices : Choices) :
    listVersions files config choices = listVersions files config choices.unlimited := by
  unfold listVersions
  rw [config.settings_eq choices]
  cases config.settings choices.unlimited <;> rfl

/-! ### Two command lines -/

/-- Two command lines differ in nothing but the limits of reports that they name. -/
def Argument.DifferInLimit (first second : List String) : Prop :=
  withoutLimit (ofTexts first) = withoutLimit (ofTexts second)

instance (first second : List String) : Decidable (Argument.DifferInLimit first second) :=
  inferInstanceAs (Decidable (_ = _))

deriving instance DecidableEq for ValidateCommand, SchemaCommand, Command, Invocation

/-- Command lines that differ in their limits alone ask for the same, apart from the limits. -/
theorem Argument.DifferInLimit.unlimited {environment? : Option String} {first second : List String}
    {one other : Invocation} (differ : DifferInLimit first second)
    (understood : Invocation.ofTexts? environment? first = some one)
    (alike : Invocation.ofTexts? environment? second = some other) :
    one.unlimited = other.unlimited := by
  have former := Invocation.read?_withoutLimit understood
  have latter := Invocation.read?_withoutLimit alike
  rw [differ, latter] at former
  exact (Option.some.inj former).symm

/-- Two texts have the same entries and the same lines behind them, and differ in how many details
stand below the line of an entry. Details are indented, and where they hold no line break the texts
have the same status lines. -/
structure DifferInDetails (entries : List (String × List String)) (behind : List String)
    (most more : Nat) (first second : String) : Prop where
  former : first = printed entries behind most
  latter : second = printed entries behind more
  indented : ∀ entry ∈ entries, ∀ detail ∈ entry.2, "    ".toList <+: detail.toList
  status : (∀ entry ∈ entries, ∀ detail ∈ entry.2, Text.isUnbroken detail = true) →
    statusLines first = statusLines second

/-- Entries with indented details are printed up to their details. -/
theorem differInDetails {entries : List (String × List String)}
    (indented : ∀ entry ∈ entries, ∀ detail ∈ entry.2, "    ".toList <+: detail.toList)
    (behind : List String) (most more : Nat) : DifferInDetails entries behind most more
      (printed entries behind most) (printed entries behind more) where
  former := rfl
  latter := rfl
  indented := indented
  status unbroken := by
    rw [statusLines_printed indented unbroken behind most,
      statusLines_printed indented unbroken behind more]

/-- Two endings agree up to the details in their outputs. -/
structure Ending.AgreeUpToDetails (first second : Ending) : Prop where
  code : first.code = second.code
  complaint : first.complaint = second.complaint
  output : ∃ entries behind most more,
    DifferInDetails entries behind most more first.output second.output

/-- An ending agrees with itself. -/
theorem Ending.agreeUpToDetails_refl (result : Except Failure Outcome) :
    (Ending.ofResult result).AgreeUpToDetails (Ending.ofResult result) where
  code := rfl
  complaint := rfl
  output := by
    cases result with
    | ok outcome => exact ⟨[], outcome.lines, 0, 0, differInDetails (by simp) outcome.lines 0 0⟩
    | error => exact ⟨[], [], 0, 0, differInDetails (by simp) [] 0 0⟩

/-- Reports that differ in their limits differ in details. -/
theorem Checker.differInDetails (files : FileAccess Id) (checker : Checker)
    (limit other : ReportLimit) (paths : List String) :
    DifferInDetails (paths.map (checker.entryOn files)) (checker.summaryOf files paths)
      limit.afterFirst other.afterFirst ({ checker with limit }.outcome files paths).text
        ({ checker with limit := other }.outcome files paths).text := by
  have text (limit : ReportLimit) : ({ checker with limit }.outcome files paths).text =
      printed (paths.map (checker.entryOn files)) (checker.summaryOf files paths)
        limit.afterFirst := by
    rw [text_outcome, summaryOf_with_limit]
    rfl
  rw [text limit, text other]
  refine GatewayCheck.differInDetails ?_ _ _ _
  intro entry listed
  obtain ⟨path, -, rfl⟩ := List.mem_map.1 listed
  exact checker.indented_entryOn files path

/-- Commands that differ in their limits end the same up to details. -/
theorem ValidateCommand.agreeUpToDetails {first second : ValidateCommand}
    (same : first.unlimited = second.unlimited) :
    (Ending.ofResult (ExceptT.run (first.run files config))).AgreeUpToDetails
      (Ending.ofResult (ExceptT.run (second.run files config))) := by
  rw [run_unlimited first, run_unlimited second, same, files_of_unlimited same]
  cases ExceptT.run (second.unlimited.checker files config) with
  | error failure => exact Ending.agreeUpToDetails_refl (.error failure)
  | ok checker =>
    have code (limit : ReportLimit) := checker.code_outcome_with_limit files limit second.files
    let former := { checker with limit := config.limitOf first.choices }.outcome files second.files
    let latter := { checker with limit := config.limitOf second.choices }.outcome files second.files
    have same : former.code = latter.code := (code _).trans (code _).symm
    show Ending.AgreeUpToDetails ⟨former.text, "", former.code⟩ ⟨latter.text, "", latter.code⟩
    rw [same]
    exact ⟨rfl, rfl, _, _, _, _, checker.differInDetails files _ _ _⟩

/-- Commands without a limit end the same, and commands that differ in their limits do so up to
details. -/
theorem Command.agreeUpToDetails {first second : Command}
    (same : first.unlimited = second.unlimited) :
    (Ending.ofResult (ExceptT.run (first.run files config))).AgreeUpToDetails
      (Ending.ofResult (ExceptT.run (second.run files config))) := by
  cases first with
  | validate first =>
    cases second with
    | validate second => exact ValidateCommand.agreeUpToDetails (Command.validate.inj same)
    | schema | versions => cases same
  | schema first =>
    cases second with
    | schema second =>
      have same := Command.schema.inj same
      have equal : ExceptT.run (first.run files config) =
          ExceptT.run (second.run files config) := by
        rw [SchemaCommand.run_unlimited first, SchemaCommand.run_unlimited second, same]
      show Ending.AgreeUpToDetails (Ending.ofResult (ExceptT.run (first.run files config))) _
      rw [equal]
      exact Ending.agreeUpToDetails_refl _
    | validate | versions => cases same
  | versions first =>
    cases second with
    | versions second =>
      have same := Command.versions.inj same
      have equal : listVersions files config first = listVersions files config second := by
        rw [listVersions_unlimited first, listVersions_unlimited second, same]
      show Ending.AgreeUpToDetails
        (Ending.ofResult (ExceptT.run (listVersions files config first))) _
      rw [equal]
      exact Ending.agreeUpToDetails_refl _
    | validate | schema => cases same

/-- Command lines that differ in their limits alone end the same up to details. -/
theorem Argument.DifferInLimit.agreeUpToDetails {environment? : Option String}
    {first second : List String} {one other : Invocation} (differ : DifferInLimit first second)
    (understood : Invocation.ofTexts? environment? first = some one)
    (alike : Invocation.ofTexts? environment? second = some other) (files : FileAccess Id) :
    (endingOf files environment? first).AgreeUpToDetails (endingOf files environment? second) := by
  have same := differ.unlimited understood alike
  cases one with
  | version =>
    cases other with
    | version =>
      rw [endingOf, endingOf, runProgram, understood, runProgram, alike]
      exact Ending.agreeUpToDetails_refl _
    | command => cases same
  | command path? one =>
    cases other with
    | version => cases same
    | command otherPath? other =>
      obtain ⟨rfl, equal⟩ := Invocation.command.inj same
      cases loaded : ExceptT.run (Config.load files path?) with
      | ok config =>
        rw [endingOf, endingOf, runProgram_command understood loaded,
          runProgram_command alike loaded]
        exact Command.agreeUpToDetails equal
      | error failure =>
        have former : runProgram files environment? first = Except.error failure := by
          rw [runProgram_eq understood]
          exact run_bind_eq_error.2 (.inl loaded)
        have latter : runProgram files environment? second = Except.error failure := by
          rw [runProgram_eq alike]
          exact run_bind_eq_error.2 (.inl loaded)
        rw [endingOf, endingOf, former, latter]
        exact Ending.agreeUpToDetails_refl _

/-- How two outputs on files differ whose checkers differ in their limits: in how many details stand
below the line of a file. The lines are those of the verdicts. Over schemas without line breaks, the
outputs have the same status lines on quiet files. -/
structure Checker.ReportsUpToLimit (files : FileAccess Id) (checker : Checker) (limit : ReportLimit)
    (paths : List String) (first second : String) : Prop where
  lines : ∀ path, (checker.entryOn files path).1 =
      (checker.checkFile files path : Verdict).line path ∧
    (checker.entryOn files path).1 =
      ({ checker with limit }.checkFile files path : Verdict).line path
  details : DifferInDetails (paths.map (checker.entryOn files)) (checker.summaryOf files paths)
    checker.limit.afterFirst limit.afterFirst first second
  quiet : checker.setting.registry.library.IsUnbroken → (∀ path ∈ paths, files.IsQuiet path) →
    statusLines first = statusLines second

/-- The output of a command that gets past its set-up changes with the limit in its details
alone. -/
theorem ValidateCommand.reportsUpToLimit {environment? configPath? : Option String}
    {first second : List String} {command : ValidateCommand} {other : Invocation}
    {checker : Checker} (differ : Argument.DifferInLimit first second)
    (understood : Invocation.ofTexts? environment? first =
      some (.command configPath? (.validate command)))
    (alike : Invocation.ofTexts? environment? second = some other)
    (ready : command.IsSetUp files configPath? checker) :
    ∃ limit, Invocation.GetsPast files environment? second { checker with limit } ∧
      checker.ReportsUpToLimit files limit command.files (endingOf files environment? first).output
        (endingOf files environment? second).output := by
  have same := differ.unlimited understood alike
  cases other with
  | version => cases same
  | command path? request =>
    obtain ⟨rfl, equal⟩ := Invocation.command.inj same
    cases request with
    | schema | versions => cases equal
    | validate request =>
      have equal : command.unlimited = request.unlimited := Command.validate.inj equal
      obtain ⟨config, loaded, made⟩ := ready
      let limit := config.limitOf request.choices
      have again : request.IsSetUp files configPath? { checker with limit } := by
        rw [run_checker_unlimited command, equal] at made
        obtain ⟨base, bare, rfl⟩ := Except.map_eq_ok.1 made
        refine ⟨config, loaded, ?_⟩
        rw [run_checker_unlimited request]
        exact Except.map_eq_ok.2 ⟨base, bare, rfl⟩
      have ready : command.IsSetUp files configPath? checker := ⟨config, loaded, made⟩
      have details := checker.differInDetails files checker.limit limit command.files
      have line (limit : ReportLimit) (path : String) : (checker.entryOn files path).1 =
          ({ checker with limit }.checkFile files path : Verdict).line path := by
        rw [Checker.checkFile_eq_cut, Verdict.line_cut]
        rfl
      rw [endingOf, endingOf, output_of_isSetUp understood ready, output_of_isSetUp alike again,
        ← files_of_unlimited equal]
      refine ⟨limit, ⟨_, _, alike, again⟩, ?_⟩
      exact {
        lines := fun path => ⟨line checker.limit path, line limit path⟩
        details
        quiet := fun unbroken quiet => details.status fun entry listed => by
          obtain ⟨path, given, rfl⟩ := List.mem_map.1 listed
          exact Checker.isUnbroken_entryOn (ready.isUnbroken unbroken) (quiet path given) }

/-- The limit of reports changes neither what is accepted nor the first thing that is reported, and
a limit of zero is one of one. Command lines that differ in the option for the limit alone end with
the same exit code and the same complaint, and their outputs have the same lines on files and differ
in how many details stand below each; where the details hold no line break, as on quiet files, they
have the same status lines. -/
theorem limit_only_cuts_details (files : FileAccess Id) :
    (∀ registry release kind path sink (limit other : ReportLimit) checker,
      limit.most ≤ other.most →
        Checker.make registry release kind path limit sink = .ok checker →
          ∃ another, Checker.make registry release kind path other sink = .ok another ∧
            ∀ document, Checker.AgreeUpToLimit checker another document) ∧
      (∀ registry release kind path sink zero one,
        Checker.make registry release kind path ⟨0⟩ sink = .ok zero →
          Checker.make registry release kind path ⟨1⟩ sink = .ok one →
            ∀ document, zero.check document = one.check document) ∧
      (∀ environment? first second one other, Argument.DifferInLimit first second →
        Invocation.ofTexts? environment? first = some one →
          Invocation.ofTexts? environment? second = some other →
            (endingOf files environment? first).AgreeUpToDetails
              (endingOf files environment? second)) ∧
      ∀ environment? first second configPath? command other checker,
        Argument.DifferInLimit first second →
          Invocation.ofTexts? environment? first = some (.command configPath? (.validate command)) →
            Invocation.ofTexts? environment? second = some other →
              command.IsSetUp files configPath? checker →
                ∃ limit, Invocation.GetsPast files environment? second { checker with limit } ∧
                  checker.ReportsUpToLimit files limit command.files
                    (endingOf files environment? first).output
                    (endingOf files environment? second).output := by
  refine ⟨?_, ?_, ?_, ?_⟩
  · intro registry release kind path sink limit other checker ordered made
    have again := @Checker.make_with_limit registry release path kind sink limit other
    rw [made] at again
    exact ⟨_, again, Checker.agreeUpToLimit (Checker.limit_of_make made ▸ ordered)⟩
  · intro registry release kind path sink zero one made more document
    have again := @Checker.make_with_limit registry release path kind sink ⟨0⟩ ⟨1⟩
    rw [made, more] at again
    obtain rfl := Except.ok.inj again
    have none : zero.limit = ⟨0⟩ := Checker.limit_of_make made
    exact Checker.check_congr (by rw [none]; rfl)
  · intro environment? first second one other differ understood alike
    exact differ.agreeUpToDetails understood alike files
  · intro environment? first second configPath? command other checker differ understood alike ready
    exact ValidateCommand.reportsUpToLimit differ understood alike ready

/-- With one violation instead of eight, metadata of a plugin and a list end with the same exit code
and the same status lines. -/
theorem limit_of_drawer : ∃ registry few many,
    Checker.make registry .v3_13 .pluginMetadata Resource.pluginMetadata.path ⟨0⟩ .runtime =
        .ok few ∧
      Checker.make registry .v3_13 .pluginMetadata Resource.pluginMetadata.path ⟨1⟩ .runtime =
        .ok many ∧
      Checker.AgreeUpToLimit few many (.array []) ∧
      few.check (.array []) = many.check (.array []) ∧
      (endingOf drawer none
          ["validate", "--resource", "plugin_metadata", "good.json", "bad.json"]).code =
        (endingOf drawer none ["validate", "--max-violations", "1", "--resource",
          "plugin_metadata", "good.json", "bad.json"]).code ∧
      statusLines (endingOf drawer none
          ["validate", "--resource", "plugin_metadata", "good.json", "bad.json"]).output =
        statusLines (endingOf drawer none ["validate", "--max-violations", "1", "--resource",
          "plugin_metadata", "good.json", "bad.json"]).output := by
  obtain ⟨registry, checker, built, made, ready, -⟩ := Packaged.metadata_is_set_up drawer
  obtain ⟨limits, least, programs, outputs⟩ := limit_only_cuts_details drawer
  have zero : Checker.make registry .v3_13 .pluginMetadata Resource.pluginMetadata.path ⟨0⟩
      .runtime = .ok { checker with limit := ⟨0⟩ } := by
    rw [Checker.make_with_limit .fallback ⟨0⟩, made]
    rfl
  obtain ⟨many, one, agree⟩ := limits _ _ _ _ _ ⟨0⟩ ⟨1⟩ _ (by decide) zero
  have differ : Argument.DifferInLimit
      ["validate", "--resource", "plugin_metadata", "good.json", "bad.json"]
      ["validate", "--max-violations", "1", "--resource", "plugin_metadata", "good.json",
        "bad.json"] := by decide +kernel
  have understood : Invocation.ofTexts? none
      ["validate", "--resource", "plugin_metadata", "good.json", "bad.json"] =
        some (.command none (.validate
          ⟨.none, some .pluginMetadata, none, ["good.json", "bad.json"]⟩)) := by cbv
  have answered : (Invocation.ofTexts? none ["validate", "--max-violations", "1", "--resource",
      "plugin_metadata", "good.json", "bad.json"]).isSome = true := by decide +kernel
  obtain ⟨other, alike⟩ := Option.isSome_iff_exists.1 answered
  have good : drawer.read "good.json" =
      Except.ok (Text.encode "\x7b\"id\":\"a\"\x7d") := rfl
  have bad : drawer.read "bad.json" = Except.ok (Text.encode "[]") := rfl
  have list : Json.ofFile "bad.json" (Text.encode "[]") = .ok (.array []) := rfl
  have quiet : ∀ path ∈ ["good.json", "bad.json"], drawer.IsQuiet path :=
    List.forall_mem_cons.2 ⟨.document good drawer_good rfl rfl,
      List.forall_mem_singleton.2 (.document bad list rfl rfl)⟩
  have library : checker.setting.registry.library = Library.packaged := by
    obtain ⟨_, -, rfl⟩ := (Checker.make_eq_ok built).1 made
    exact Registry.library_of_build built
  obtain ⟨limit, -, reports⟩ :=
    outputs none _ _ none _ _ checker differ understood alike (ready _)
  exact ⟨registry, _, many, zero, one, agree _, least _ _ _ _ _ _ _ zero one _,
    (programs none _ _ _ _ differ understood alike).code,
    reports.quiet (library ▸ Packaged.isUnbroken) quiet⟩

/-! ### Limits and status lines -/

/-- The violations that a checker over the packaged schemas finds are those of the closed schema of
its kind, whatever references mean in it. -/
theorem Packaged.violations_of_make {registry : Registry}
    (built : Registry.build Library.packaged = .ok registry) {release : Release} {kind : Resource}
    {limit : ReportLimit} {sink : Sink} {checker : Checker}
    (made : Checker.make registry release kind kind.path limit sink = .ok checker)
    (document : Json) : ∃ meaning, checker.fragment.violations document =
      (Schema.read none (sink.close (schemaOf release kind))).violations meaning document := by
  obtain ⟨fragment, resolved, rfl⟩ := (Checker.make_eq_ok built).1 made
  obtain ⟨schema, compiled, found, done, rfl⟩ := Library.compile_eq_ok.1 resolved
  rw [fragment_schemaOf] at found
  obtain rfl := Except.ok.inj found
  have root := (Schema.follows_of_compile done).1
  refine ⟨Schema.violationsAt compiled.table (compiled.stepsFor document), ?_⟩
  show compiled.root.violations _ document = _
  rw [root]
  rfl

/-- A consumer with a key of two lines and a name that is no text. -/
def misnamed : Json := .object [("a\nPASS b.json", .whole 1), ("username", .array [])]

/-- A directory with the consumer. -/
def satchel : FileAccess Id :=
  (FileTree.directory [("a.json", .file (Text.encode misnamed.compact))]).access

/-- The directory has the consumer. -/
theorem satchel_misnamed : Json.ofFile "a.json" (Text.encode misnamed.compact) = .ok misnamed := by
  have text : Json.ofBytes (Text.encode misnamed.compact) = .ok misnamed :=
    Json.ofBytes_compact (by decide +kernel) (by decide +kernel)
  rw [Json.ofFile_eq_ofBytes (by decide +kernel), text]
  rfl

/-- The name of the consumer is no text. -/
def misnaming : Detail :=
  .violation ⟨["username"], ["properties", "username", "type"], .array [],
    .constraint (.type [.string])⟩

/-- A key of the consumer is not allowed. -/
def surplus : Detail :=
  .violation ⟨[], ["additionalProperties"], misnamed, .constraint (.closed
    ["create_time", "desc", "group_id", "labels", "plugins", "update_time", "username"] [])⟩

/-- Over the packaged schemas, a command for consumers is set up with every limit. Its checker
reports the name of the consumer, and the key where the limit allows it. -/
theorem Packaged.consumer_is_set_up (files : FileAccess Id) (limit : Nat) : ∃ checker : Checker,
    (∀ paths, ValidateCommand.IsSetUp files none
      ⟨⟨none, none, none, some limit⟩, some .consumer, none, paths⟩ checker) ∧
      checker.check misnamed =
        .error (.structural misnaming (if limit ≤ 1 then [] else [surplus])) := by
  obtain ⟨registry, built⟩ := Packaged.exists_build
  obtain ⟨checker, made, -⟩ := Packaged.make_kind built .v3_13 .consumer ⟨limit⟩ .runtime
  have schemas : ExceptT.run (Settings.registry files ⟨.v3_13, .runtime, none, ⟨limit⟩⟩) =
      Except.ok registry := run_settle_eq_ok.2 built
  refine ⟨checker, fun paths => ?_, Checker.check_eq_structural.2 ?_⟩
  · exact ⟨.empty, rfl, ValidateCommand.checker_eq_ok.2 ⟨_, _, registry, rfl, rfl, schemas, made⟩⟩
  · obtain ⟨meaning, found⟩ := violations_of_make built made misnamed
    have every : checker.everyDetail misnamed = [misnaming, surplus] := by
      rw [Checker.everyDetail, Checker.fullCheck_of_cons found]
      rfl
    rw [every, Checker.limit_of_make made]
    split
    · rename_i single
      rw [Nat.max_eq_right single]
      rfl
    · rw [List.take_of_length_le (by simp; omega)]

/-- The status lines on the consumer: the report on its name, and from a limit of two on a line that
its key forges. -/
theorem statusLines_satchel (limit : Nat) {arguments : List String}
    (parsed : Invocation.ofTexts? none arguments = some (.command none (.validate
      ⟨⟨none, none, none, some limit⟩, some .consumer, none, ["a.json"]⟩))) :
    statusLines (endingOf satchel none arguments).output =
      "FAIL a.json: schema violation at /username: [] is not of type \"string\"" ::
        if limit ≤ 1 then [] else
          ["PASS b.json' was unexpected) (schema /additionalProperties)"] := by
  obtain ⟨checker, ready, failed⟩ := Packaged.consumer_is_set_up satchel limit
  have read : satchel.read "a.json" = Except.ok (Text.encode misnamed.compact) := rfl
  have verdict : checker.checkFile satchel "a.json" =
      Verdict.fail "" (.structural misnaming (if limit ≤ 1 then [] else [surplus])) := by
    rw [Checker.checkFile_eq_ofResult read satchel_misnamed, failed]
    rfl
  have unbroken : ∀ path ∈ ["a.json"], Text.isUnbroken path = true := by decide
  rw [endingOf, ValidateCommand.output_of_isSetUp parsed (ready _),
    Checker.statusLines_outcome unbroken, List.flatMap_singleton, Checker.statusLinesOn, verdict]
  split <;> decide +kernel

/-- A limit of two instead of one adds a status line: it speaks of a file that is not there. -/
theorem limit_adds_status_line :
    Argument.DifferInLimit ["validate", "--resource", "consumer", "--max-violations", "1", "a.json"]
        ["validate", "--resource", "consumer", "--max-violations", "2", "a.json"] ∧
      statusLines (endingOf satchel none ["validate", "--resource", "consumer", "--max-violations",
        "1", "a.json"]).output =
          ["FAIL a.json: schema violation at /username: [] is not of type \"string\""] ∧
      statusLines (endingOf satchel none ["validate", "--resource", "consumer", "--max-violations",
        "2", "a.json"]).output =
          ["FAIL a.json: schema violation at /username: [] is not of type \"string\"",
            "PASS b.json' was unexpected) (schema /additionalProperties)"] := by
  refine ⟨by decide +kernel, ?_, ?_⟩
  · exact statusLines_satchel 1 (by decide +kernel)
  · exact statusLines_satchel 2 (by decide +kernel)

end GatewayCheck
