import GatewayCheck.Files
import GatewayCheck.Json.Reader
import GatewayCheck.Schema.Compiled
import GatewayCheck.Selector

/-!
Errors of the setting: a release, a path, a kind or a sink that is not known, a schema that cannot
be compiled, and a schema document that cannot be loaded.
-/
namespace GatewayCheck

/-- Why a schema document cannot be loaded. -/
inductive LoadFailure where
  | file (error : FileError)
  | notText
  | malformed (error : Json.ReadError)
  deriving DecidableEq, Repr

/-- The text of a load failure. -/
def LoadFailure.message : LoadFailure → String
  | file error => error.message
  | notText => "stream did not contain valid UTF-8"
  | malformed error => error.message

/-- Why no check can be made. -/
inductive SetupError where
  | unsupportedRelease (name : String)
  | pathNotFound (release : Release) (path : String)
  | unknownSink (name : String)
  | unknownResource (path : String)
  | notCompiled (release : Release) (path : String) (defect : Schema.Defect)
  | notLoaded (path : String) (failure : LoadFailure)
  deriving Repr

namespace SetupError

/-- The text of an error of the setting. -/
def message : SetupError → String
  | unsupportedRelease name => "unsupported gateway version: " ++ Text.quoted name
  | pathNotFound release path =>
    "schema path " ++ Text.quoted path ++ " not found for gateway version " ++ release.name
  | unknownSink name => "unknown storage sink: " ++ Text.quoted name
  | unknownResource path => "no resource kind for schema path " ++ Text.quoted path
  | notCompiled release path defect =>
    "failed to compile schema " ++ Text.quoted path ++ " for gateway version " ++ release.name ++
      ": " ++ defect.message
  | notLoaded path failure => "failed to load schema document " ++ path ++ ": " ++ failure.message

/-- The error of a name that no selector has. -/
def ofUnknownName : UnknownName → SetupError
  | .release name => unsupportedRelease name
  | .resource name => unknownResource name
  | .sink name => unknownSink name

end SetupError

end GatewayCheck
