import GatewayCheck.Verdict

/-!
Reports: the verdicts on the files of a check, in the order of the files.
-/
namespace GatewayCheck

/-- The verdicts on some files that are documents of one kind. -/
structure Report where
  kind : Resource
  verdicts : List (String × Verdict)
  deriving Repr

namespace Report

/-- The number of files that pass. -/
def passCount (report : Report) : Nat := (report.verdicts.filter fun entry => entry.2.isPass).length

/-- The exit code of a report is the greatest of its verdicts. -/
def code (report : Report) : Nat :=
  report.verdicts.foldl (fun code entry => max code entry.2.code) 0

/-- The line that counts the files; a single file is not counted. -/
def summary (report : Report) : List String :=
  if 1 < report.verdicts.length then
    [report.kind.name ++ ": " ++ Number.wholeText report.passCount ++ "/" ++
      Number.wholeText report.verdicts.length ++ " passed"]
  else []

/-- The lines of a report. -/
def lines (report : Report) : List String :=
  (report.verdicts.flatMap fun (path, verdict) => verdict.line path :: verdict.details) ++
    report.summary

end Report

namespace Checker

/-- The verdicts on files, one after another. -/
def checkFiles {m : Type → Type} [Monad m] (files : FileAccess m) (checker : Checker) :
    (paths : List String) → m (List (String × Verdict))
  | [] => return []
  | path :: rest => do
    let verdict ← checker.checkFile files path
    return (path, verdict) :: (← checkFiles files checker rest)

/-- The report on files. -/
def report {m : Type → Type} [Monad m] (files : FileAccess m) (checker : Checker)
    (paths : List String) : m Report := do
  return ⟨checker.kind, ← checker.checkFiles files paths⟩

end Checker

end GatewayCheck
