import GatewayCheck.Config

/-!
Settings: what is chosen for a command comes before the configuration file, and the file before what
is meant when nothing is chosen.
-/
namespace GatewayCheck

/-- What is chosen for a command. -/
structure Choices where
  release? : Option Release
  sink? : Option Sink
  schemaDirectory? : Option String
  limit? : Option Nat
  deriving DecidableEq, Repr

namespace Choices

/-- Nothing is chosen. -/
def none : Choices := ⟨.none, .none, .none, .none⟩

/-- The first choices, and the second ones where the first leave something open. -/
def or (first second : Choices) : Choices where
  release? := first.release?.or second.release?
  sink? := first.sink?.or second.sink?
  schemaDirectory? := first.schemaDirectory?.or second.schemaDirectory?
  limit? := first.limit?.or second.limit?

end Choices

/-- The settings of a command. -/
structure Settings where
  release : Release
  sink : Sink
  schemaDirectory? : Option String
  limit : ReportLimit
  deriving DecidableEq, Repr

/-- Why a configuration gives no settings: it names a release that is not known. -/
inductive SettingsError where
  | unsupportedRelease (name : String)
  deriving DecidableEq, Repr

/-- The text of a settings error. -/
def SettingsError.message : SettingsError → String
  | unsupportedRelease name =>
    "invalid gateway_version " ++ Text.quoted name ++ " in configuration: " ++
      (UnknownName.release name).message

namespace Config

/-- The release of a configuration. -/
def release (config : Config) : Except SettingsError Release :=
  match config.release? with
  | none => .ok .fallback
  | some name => (Release.ofName? name).elim (.error (.unsupportedRelease name)) .ok

/-- The settings of a command. -/
def settings (config : Config) (choices : Choices) : Except SettingsError Settings := do
  let release ← choices.release?.elim config.release .ok
  return {
    release
    sink := (choices.sink?.or config.sink?).getD .fallback
    schemaDirectory? := choices.schemaDirectory?.or config.schemaDirectory?
    limit := ((choices.limit?.or config.limit?).map ReportLimit.mk).getD .fallback }

end Config

end GatewayCheck
