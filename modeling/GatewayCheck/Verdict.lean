import GatewayCheck.Checker
import GatewayCheck.Label
import GatewayCheck.Yaml.Reader

/-!
Verdicts on files. The name of a file says how its content is read, and each verdict is reported on
a line of its own.
-/
namespace GatewayCheck

/-- The last name in a path. Empty names and single dots are passed over. -/
def lastName? (path : String) : Option String :=
  let names := (Text.split '/' path).filter fun name => !(name.isEmpty || name = ".")
  names.getLast?.filter (· ≠ "..")

/-- The part of a name behind its last dot; a dot at the start of a name does not count. -/
def extension? (path : String) : Option String := do
  let name := (← lastName? path).toList.reverse
  let ending := name.takeWhile (· ≠ '.')
  match name.drop ending.length with
  | [] | ['.'] => none
  | _ => some (String.ofList ending.reverse)

/-- The two extensions of YAML files. -/
def isYamlPath (path : String) : Bool :=
  extension? path = some "yaml" || extension? path = some "yml"

/-- The document in the content of a file: YAML by the extension of its path, and JSON otherwise. -/
def Json.ofFile (path : String) (content : Bytes) : Except Malformed Json :=
  if isYamlPath path then (Json.ofYaml? content).elim (.error (.yaml none)) .ok
  else (Json.ofBytes content).mapError .json

/-- Why there is no verdict on a file. -/
inductive Obstacle where
  | unreadable (error : FileError)
  | setup (error : SetupError)
  deriving Repr

/-- The text of an obstacle. -/
def Obstacle.message : Obstacle → String
  | unreadable error => "failed to read file: " ++ error.message
  | setup error => (Rejection.setup error).message

/-- What is found out about a file. -/
inductive Verdict where
  | pass (label : String)
  | fail (label : String) (rejection : Rejection)
  | error (obstacle : Obstacle)
  deriving Repr

namespace Verdict

/-- The verdict on a document whose check ends with a result. A fault of the setting is not the
document's. -/
def ofResult (label : String) : Except Rejection Unit → Verdict
  | .ok () => pass label
  | .error (.setup fault) => error (.setup fault)
  | .error rejection => fail label rejection

/-- The exit code of a verdict. -/
def code : Verdict → Nat
  | pass _ => 0
  | fail _ _ => 1
  | error _ => 2

/-- The document passed. -/
def isPass : Verdict → Bool
  | pass _ => true
  | _ => false

/-- A label behind the path of a file; an empty label is left out. -/
def labelSuffix (label : String) : String := if label.isEmpty then "" else " (" ++ label ++ ")"

/-- The lines below the line of a verdict: what else is wrong with the structure. -/
def details : Verdict → List String
  | fail _ (.structural _ others) => others.map fun detail => "    " ++ detail.line
  | _ => []

/-- The line of a verdict. -/
def line (path : String) : Verdict → String
  | pass label => "PASS " ++ path ++ labelSuffix label
  | fail label rejection => "FAIL " ++ path ++ labelSuffix label ++ ": " ++ rejection.message
  | error obstacle => "ERROR " ++ path ++ ": " ++ obstacle.message

end Verdict

namespace Checker

/-- The verdict on the content of a file, of which the reader of YAML may complain. -/
def checkContent (checker : Checker) (path : String) (content : Bytes)
    (complaint? : Option String) : Verdict :=
  match Json.ofFile path content with
  | .ok document => .ofResult document.label (checker.check document)
  | .error reason => .fail "" (.malformed (reason.explained complaint?))

/-- The verdict on a file. -/
def checkFile {m : Type → Type} [Monad m] (files : FileAccess m) (checker : Checker)
    (path : String) : m Verdict := do
  match ← files.read path with
  | .ok content => return checker.checkContent path content (files.complaint? content)
  | .error error => return .error (.unreadable error)

end Checker

end GatewayCheck
