import GatewayCheck.Config
import GatewayCheck.Settings

/-!
Command lines. Shared options stand in front of the name of a command or behind it, every option is
given at most once at each of these places, and behind a double hyphen there are no options.
-/
namespace GatewayCheck

/-- One part of a command line. -/
inductive Argument where
  | option (name value : String)
  | flag (name : String)
  | word (text : String)
  | literal (text : String)
  | malformed
  deriving DecidableEq, Repr

namespace Argument

/-- The options that take a value. -/
def optionNames : List String :=
  ["config", "log-format", "schema-dir", "gateway-version", "sink", "resource", "path",
    "max-violations"]

/-- The options without a value. -/
def flagNames : List String := ["verbose", "version", "compact"]

/-- The flag of a letter. -/
def ofLetter : Char → Argument
  | 'v' => flag "verbose"
  | 'V' => flag "version"
  | _ => malformed

/-- A text that starts with a hyphen is no value; a single hyphen is one. -/
def isValue (text : String) : Bool :=
  match text.toList with
  | '-' :: _ :: _ => false
  | _ => true

/-- A flag by its name. -/
def ofFlag (name : String) : Argument := if flagNames.contains name then flag name else malformed

/-- The parts of a command line. The value of an option follows an equals sign, or is the next
text. -/
def ofTexts : List String → List Argument
  | [] => []
  | text :: rest =>
    match text.toList with
    | ['-', '-'] => rest.map literal
    | '-' :: '-' :: long =>
      let name := String.ofList (long.takeWhile (· ≠ '='))
      match long.dropWhile (· ≠ '=') with
      | _ :: value =>
        (if optionNames.contains name then option name (String.ofList value) else malformed) ::
          ofTexts rest
      | [] =>
        if optionNames.contains name then
          match rest with
          | value :: rest =>
            (if isValue value then option name value else malformed) :: ofTexts rest
          | [] => [malformed]
        else ofFlag name :: ofTexts rest
    | '-' :: letter :: letters => (letter :: letters).map ofLetter ++ ofTexts rest
    | _ => word text :: ofTexts rest

end Argument

/-! ### Commands -/

/-- What the documents of a check are checked against: the kind, or the path of a schema. -/
structure ValidateCommand where
  choices : Choices
  resource? : Option Resource
  path? : Option String
  files : List String
  deriving Repr

/-- The schema that is asked for, and whether it is printed on one line. -/
structure SchemaCommand where
  choices : Choices
  resource : Resource
  isCompact : Bool
  deriving Repr

/-- The commands. -/
inductive Command where
  | validate (command : ValidateCommand)
  | schema (command : SchemaCommand)
  | versions (choices : Choices)
  deriving Repr

/-- What a command line asks for: the version of the program, or a command with the path of a
configuration file. -/
inductive Invocation where
  | version
  | command (configPath? : Option String) (command : Command)
  deriving Repr

/-! ### Options at one place -/

/-- The names of the commands. -/
inductive CommandName where
  | validate
  | schema
  | versions
  deriving DecidableEq, Repr

namespace CommandName

/-- The commands by their names. -/
def spellings : List (String × CommandName) :=
  [("validate", validate), ("schema", schema), ("versions", versions)]

end CommandName

/-- What is given at one place of a command line. -/
structure Given where
  verbosity : Nat
  configPath? : Option String
  logFormat? : Option LogFormat
  choices : Choices
  resource? : Option Resource
  path? : Option String
  isCompact : Bool
  files : List String
  deriving Repr

namespace Given

/-- Nothing is given. -/
def nothing : Given := ⟨0, none, none, .none, none, none, false, []⟩

/-- A value in a place that must be free. -/
def once? {α : Type} (old? new? : Option α) : Option α := if old?.isSome then none else new?

/-- The path of a file, which is not empty. -/
def filePath? (text : String) : Option String := if text.isEmpty then none else some text

/-- A count of at most 64 bits; a plus sign says nothing. -/
def count? (text : String) : Option Nat := do
  let digits :=
    match text.toList with
    | '+' :: digits => digits
    | digits => digits
  let value ← Yaml.readDigits? 10 digits
  if value < Nat.pow 2 64 then some value else none

/-- Takes an option that every place allows. -/
def takeShared? (given : Given) : Argument → Option Given
  | .flag "verbose" => some { given with verbosity := given.verbosity + 1 }
  | .option "config" value =>
    (once? given.configPath? (filePath? value)).map fun path =>
      { given with configPath? := some path }
  | .option "log-format" value =>
    (once? given.logFormat? (LogFormat.spellings.lookup value)).map fun format =>
      { given with logFormat? := some format }
  | .option "schema-dir" value =>
    (once? given.choices.schemaDirectory? (filePath? value)).map fun path =>
      { given with choices := { given.choices with schemaDirectory? := some path } }
  | _ => none

/-- Takes an option that names the release or the sink. -/
def takeTarget? (given : Given) : Argument → Option Given
  | .option "gateway-version" value =>
    (once? given.choices.release? (Release.ofName? value)).map fun release =>
      { given with choices := { given.choices with release? := some release } }
  | .option "sink" value =>
    (once? given.choices.sink? (Sink.ofName? value)).map fun sink =>
      { given with choices := { given.choices with sink? := some sink } }
  | .option "resource" value =>
    (once? given.resource? (Resource.ofName? value)).map fun kind =>
      { given with resource? := some kind }
  | argument => given.takeShared? argument

/-- Takes the path of a document. -/
def takeFile? (given : Given) (text : String) : Option Given :=
  (filePath? text).map fun path => { given with files := given.files ++ [path] }

/-- Takes an argument of the command that checks documents. -/
def takeValidate? (given : Given) : Argument → Option Given
  | .option "path" value =>
    (once? given.path? (some value)).map fun path => { given with path? := some path }
  | .option "max-violations" value =>
    (once? given.choices.limit? (count? value)).map fun limit =>
      { given with choices := { given.choices with limit? := some limit } }
  | .word text | .literal text => given.takeFile? text
  | argument => given.takeTarget? argument

/-- Takes an argument of the command that prints a schema. -/
def takeSchema? (given : Given) : Argument → Option Given
  | .flag "compact" => if given.isCompact then none else some { given with isCompact := true }
  | argument => given.takeTarget? argument

/-- Takes an argument of a command. -/
def take? (given : Given) : CommandName → Argument → Option Given
  | .validate => given.takeValidate?
  | .schema => given.takeSchema?
  | .versions => given.takeShared?

/-- The command of what is given behind its name; what is given before the name comes second. -/
def command? (inner : Given) (outer : Choices) : CommandName → Option Command
  | .validate =>
    if inner.files.isEmpty || (inner.resource?.isSome && inner.path?.isSome) then none
    else
      some (.validate {
        choices := inner.choices.or outer
        resource? := inner.resource?
        path? := inner.path?
        files := inner.files })
  | .schema =>
    inner.resource?.map fun resource =>
      .schema { choices := inner.choices.or outer, resource, isCompact := inner.isCompact }
  | .versions => some (.versions (inner.choices.or outer))

end Given

/-! ### Reading command lines -/

namespace Invocation

/-- The path of the configuration file: the innermost that is given, or else the one of the
environment, which is not empty where it is asked for. -/
def configPath? (environment? : Option String) (outer inner : Given) : Option (Option String) :=
  if environment? = some "" && (outer.configPath?.isNone || inner.configPath?.isNone) then none
  else some ((inner.configPath?.or outer.configPath?).or environment?)

/-- Reads the arguments behind the name of a command. -/
def readCommand? (environment? : Option String) (outer : Given) (name : CommandName)
    (arguments : List Argument) : Option Invocation := do
  let inner ← arguments.foldlM (fun given argument => given.take? name argument) Given.nothing
  let path? ← configPath? environment? outer inner
  return command path? (← inner.command? outer.choices name)

/-- Reads arguments up to the name of a command, and then those of the command. -/
def read? (environment? : Option String) (outer : Given) : List Argument → Option Invocation
  | [] => none
  | .flag "version" :: _ => some version
  | .word text :: rest => do
    readCommand? environment? outer (← CommandName.spellings.lookup text) rest
  | argument :: rest => do read? environment? (← outer.takeShared? argument) rest

/-- Reads a command line, with the path of a configuration file in the environment. -/
def ofTexts? (environment? : Option String) (texts : List String) : Option Invocation :=
  read? environment? .nothing (Argument.ofTexts texts)

end Invocation

end GatewayCheck
