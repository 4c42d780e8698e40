import GatewayCheck.Program

/-!
The command line: files are those of the system, results go to the standard output, and the reason
of a failure goes to the standard error.
-/
namespace GatewayCheck

/-- The number of a system error, which some operations report with the other sign. -/
def errorNumber (code : UInt32) : Nat :=
  if code.toNat < Nat.pow 2 31 then code.toNat else Nat.pow 2 32 - code.toNat

/-- The file error of a failed operation. -/
def fileErrorOf : IO.Error → FileError
  | .noFileOrDirectory _ _ _ => .missing
  | .inappropriateType path? code text =>
    match errorNumber code with
    | 20 => .notDirectory
    | 21 => .isDirectory
    | _ => .other (toString (IO.Error.inappropriateType path? code text))
  | error => .other (toString error)

/-- The result of an operation on files. -/
def attempt {α : Type} (operation : IO α) : IO (Except FileError α) := do
  match ← operation.toBaseIO with
  | .ok value => return .ok value
  | .error error => return .error (fileErrorOf error)

/-- The content of a file of the system. -/
def readSystemFile (path : String) : IO (Except FileError Bytes) :=
  attempt do return (← IO.FS.readBinFile path).toList

/-- The names in a directory of the system. -/
def listSystemDirectory (path : String) : IO (Except FileError (List String)) :=
  attempt do return (← (System.mkFilePath [path]).readDir).toList.map IO.FS.DirEntry.fileName

/-- Access to the files of the system, without what the reader of YAML says. -/
def systemFiles : FileAccess IO := ⟨readSystemFile, listSystemDirectory, fun _ => none⟩

end GatewayCheck

open GatewayCheck

/-- Runs the program. -/
def main (arguments : List String) : IO UInt32 := do
  let ending := Ending.ofResult (← runProgram systemFiles (← IO.getEnv "MGW_CONFIG") arguments)
  IO.print ending.output
  IO.eprint ending.complaint
  return UInt32.ofNat ending.code
