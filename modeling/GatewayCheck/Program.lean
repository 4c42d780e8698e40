import GatewayCheck.Arguments
import GatewayCheck.Report

/-!
The program: it reads its configuration, makes the registry, and does what one command asks for.
Nothing is printed when a command cannot be done.
-/
namespace GatewayCheck

/-- Why a command cannot be done. -/
inductive Failure where
  | usage
  | unreadableConfig (path : String) (error : FileError)
  | invalidConfig (path : String)
  | settings (error : SettingsError)
  | noKind
  | unknownKind (error : UnknownName)
  | setup (error : SetupError)
  | unreadableSchema (error : Json.ReadError)
  deriving Repr

/-- The text of a failure. -/
def Failure.message : Failure → String
  | usage => "the command line is not understood"
  | unreadableConfig path error => "failed to read configuration " ++ path ++ ": " ++ error.message
  | invalidConfig path => "invalid configuration " ++ path
  | settings error => error.message
  | noKind => "either --resource or --path is required"
  | unknownKind error => error.message
  | setup error => error.message
  | unreadableSchema error => error.message

/-- The exit code of a failure. -/
def Failure.code : Nat := 2

/-- The name and the version of the program. -/
def versionLine : String := "mgw 0.1.0"

/-- What a command ends with: the lines that it prints and its exit code. -/
structure Outcome where
  lines : List String
  code : Nat
  deriving DecidableEq, Repr

/-- The text that an outcome prints. -/
def Outcome.text (outcome : Outcome) : String :=
  String.join (outcome.lines.map fun line => line ++ "\n")

/-- The result of a settled question, as a step that can fail. -/
def settle {m : Type → Type} [Monad m] {ε α : Type} (cause : ε → Failure) (result : Except ε α) :
    ExceptT Failure m α :=
  ExceptT.mk (pure (result.mapError cause))

/-- Loads the configuration from a file; without one nothing is set. -/
def Config.load {m : Type → Type} [Monad m] (files : FileAccess m) (path? : Option String) :
    ExceptT Failure m Config := do
  match path? with
  | none => return .empty
  | some path =>
    let content ← settle (.unreadableConfig path) (← files.read path)
    match (Text.decode? content).bind Config.ofText? with
    | some config => return config
    | none => throw (.invalidConfig path)

/-- The registry of the schema documents that are asked for. -/
def Settings.registry {m : Type → Type} [Monad m] (files : FileAccess m) (settings : Settings) :
    ExceptT Failure m Registry := do
  match settings.schemaDirectory? with
  | none => settle .setup (Registry.build .packaged)
  | some directory =>
    let library ← settle .setup (← (Library.load files directory : m _))
    settle .setup (Registry.build library)

/-- The kind of the documents, and the path of the schema that they are checked against. -/
def ValidateCommand.target (command : ValidateCommand) : Except Failure (Resource × String) :=
  match command.resource?, command.path? with
  | some kind, _ => .ok (kind, kind.path)
  | none, some path => do
    let kind ← (Resource.parsePath path).mapError .unknownKind
    return (kind, path)
  | none, none => .error .noKind

/-- The checker of a command. -/
def ValidateCommand.checker {m : Type → Type} [Monad m] (files : FileAccess m) (config : Config)
    (command : ValidateCommand) : ExceptT Failure m Checker := do
  let settings ← settle .settings (config.settings command.choices)
  let (kind, path) ← settle id command.target
  let registry ← settings.registry files
  settle .setup (Checker.make registry settings.release kind path settings.limit settings.sink)

/-- Checks the files of a command. -/
def ValidateCommand.run {m : Type → Type} [Monad m] (files : FileAccess m) (config : Config)
    (command : ValidateCommand) : ExceptT Failure m Outcome := do
  let checker ← command.checker files config
  let report ← (checker.report files command.files : m _)
  return ⟨report.lines, report.code⟩

/-- The schema of a command, as the checker of its kind has it. -/
def SchemaCommand.fragment {m : Type → Type} [Monad m] (files : FileAccess m) (config : Config)
    (command : SchemaCommand) : ExceptT Failure m Fragment := do
  let settings ← settle .settings (config.settings command.choices)
  let registry ← settings.registry files
  let kind := command.resource
  settle .setup (registry.resolve settings.release kind kind.path settings.sink)

/-- Prints the schema of a command. -/
def SchemaCommand.run {m : Type → Type} [Monad m] (files : FileAccess m) (config : Config)
    (command : SchemaCommand) : ExceptT Failure m Outcome := do
  let fragment ← command.fragment files config
  if command.isCompact then return ⟨[fragment.text], 0⟩
  else
    let schema ← settle .unreadableSchema (Json.ofText fragment.text)
    return ⟨[schema.pretty], 0⟩

/-- Lists the releases that have schema documents. -/
def listVersions {m : Type → Type} [Monad m] (files : FileAccess m) (config : Config)
    (choices : Choices) : ExceptT Failure m Outcome := do
  let settings ← settle .settings (config.settings choices)
  let registry ← settings.registry files
  return ⟨registry.library.releases.map Release.name, 0⟩

/-- Does what a command asks for. -/
def Command.run {m : Type → Type} [Monad m] (files : FileAccess m) (config : Config) :
    Command → ExceptT Failure m Outcome
  | validate command => command.run files config
  | schema command => command.run files config
  | versions choices => listVersions files config choices

/-- Does what a command line asks for. -/
def Invocation.run {m : Type → Type} [Monad m] (files : FileAccess m) :
    Invocation → ExceptT Failure m Outcome
  | version => return ⟨[versionLine], 0⟩
  | command path? request => do request.run files (← Config.load files path?)

/-- Runs the program with the path of a configuration file in the environment. -/
def runProgram {m : Type → Type} [Monad m] (files : FileAccess m) (environment? : Option String)
    (arguments : List String) : m (Except Failure Outcome) :=
  match Invocation.ofTexts? environment? arguments with
  | some invocation => (invocation.run files).run
  | none => return .error .usage

/-- How the program ends: the texts on the standard output and on the standard error, and the exit
code. -/
structure Ending where
  output : String
  complaint : String
  code : Nat
  deriving DecidableEq, Repr

/-- The ending of a run. -/
def Ending.ofResult : Except Failure Outcome → Ending
  | .ok outcome => ⟨outcome.text, "", outcome.code⟩
  | .error failure => ⟨"", failure.message ++ "\n", Failure.code⟩

end GatewayCheck
