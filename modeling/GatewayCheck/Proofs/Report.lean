import GatewayCheck.Proofs.Entry
import GatewayCheck.Proofs.Construction
import Mathlib.Order.Lattice
import Mathlib.Order.Nat

/-!
Reports on files. Every file gets a verdict of one of three severities, in the order in which the
files are given, and the exit code of a report is the greatest severity. So the code depends only on
which files are checked, and the code of two lists together is the greater of their codes.
-/
namespace GatewayCheck

/-! ### Verdicts on one file -/

/-- A file that is not named as YAML is read as JSON. -/
theorem Json.ofFile_eq_ofBytes {path : String} (plain : isYamlPath path = false) (content : Bytes) :
    Json.ofFile path content = (Json.ofBytes content).mapError .json := by
  unfold Json.ofFile
  rw [plain]
  rfl

/-- A file cannot be read. -/
def FileAccess.IsUnreadable (files : FileAccess Id) (path : String) : Prop :=
  ∃ error, files.read path = Except.error error

/-- A fault in the setting is one of the configuration or, when a schema is wrong, an internal
one. -/
theorem Rejection.category_setup (error : SetupError) : (setup error).category = .configuration ∨
    (setup error).category = .internal := by
  cases error with
  | notCompiled => exact .inr rfl
  | _ => exact .inl rfl

/-- A document whose structure or whose contents are wrong fails for that. -/
theorem Verdict.ofResult_of_document_fault {label : String} {rejection : Rejection}
    (fault : rejection.category = .schema ∨ rejection.category = .semantic) :
    ofResult label (.error rejection) = fail label rejection := by
  cases rejection with
  | malformed | structural | semantic => rfl
  | setup error =>
    rcases Rejection.category_setup error with own | own <;> rw [own] at fault <;>
      rcases fault with fault | fault <;> cases fault

/-- A document whose structure or whose contents are wrong has severity one. -/
theorem Verdict.code_of_document_fault {label : String} {rejection : Rejection}
    (fault : rejection.category = .schema ∨ rejection.category = .semantic) :
    (ofResult label (.error rejection)).code = 1 := by
  rw [ofResult_of_document_fault fault]
  rfl

/-- A fault of the setting or of the schemas has severity two. -/
theorem Verdict.code_of_setting_fault {label : String} {rejection : Rejection}
    (fault : rejection.category = .configuration ∨ rejection.category = .internal) :
    (ofResult label (.error rejection)).code = 2 := by
  cases rejection with
  | setup error => rfl
  | malformed | structural | semantic => rcases fault with fault | fault <;> cases fault

namespace Checker

variable {files : FileAccess Id} {checker : Checker} {path : String}

/-- The document in a file is accepted. -/
inductive Passes (files : FileAccess Id) (checker : Checker) (path : String) : Prop
  | accepted {content : Bytes} {document : Json} (read : files.read path = Except.ok content)
    (holds : Json.ofFile path content = .ok document) (passed : checker.check document = .ok ())

/-- A file holds no document, or one that the schema or a rule rejects. -/
inductive Refuses (files : FileAccess Id) (checker : Checker) (path : String) : Prop
  | malformed {content : Bytes} {reason : Malformed} (read : files.read path = Except.ok content)
    (spoiled : Json.ofFile path content = .error reason)
  | rejected {content : Bytes} {document : Json} {rejection : Rejection}
    (read : files.read path = Except.ok content)
    (holds : Json.ofFile path content = .ok document)
    (failed : checker.check document = .error rejection)
    (fault : rejection.category = .schema ∨ rejection.category = .semantic)

/-- There is no verdict on the document in a file: the file cannot be read, or the check ends with a
fault of the setting or of the schemas. -/
inductive Blocks (files : FileAccess Id) (checker : Checker) (path : String) : Prop
  | unreadable (failed : files.IsUnreadable path)
  | faulty {content : Bytes} {document : Json} {rejection : Rejection}
    (read : files.read path = Except.ok content)
    (holds : Json.ofFile path content = .ok document)
    (failed : checker.check document = .error rejection)
    (fault : rejection.category = .configuration ∨ rejection.category = .internal)

/-- A file that cannot be read is blamed. -/
theorem checkFile_unreadable {error : FileError} (failed : files.read path = Except.error error) :
    checker.checkFile files path = Verdict.error (.unreadable error) := by
  unfold checkFile
  rw [failed]
  rfl

/-- A file without a document fails under no name, in the words of its reader. -/
theorem checkFile_malformed {content : Bytes} {reason : Malformed}
    (read : files.read path = Except.ok content)
    (spoiled : Json.ofFile path content = .error reason) :
    checker.checkFile files path =
      Verdict.fail "" (.malformed (reason.explained (files.complaint? content))) := by
  have verdict : checker.checkFile files path =
      checker.checkContent path content (files.complaint? content) := by
    unfold checkFile
    rw [read]
    rfl
  rw [verdict, checkContent, spoiled]

/-- The document in a file passes with severity zero. -/
theorem Passes.code (passes : Passes files checker path) :
    (checker.checkFile files path).code = 0 := by
  obtain ⟨read, holds, passed⟩ := passes
  rw [checkFile_eq_ofResult read holds, passed]
  rfl

/-- A file is refused with severity one. -/
theorem Refuses.code (refuses : Refuses files checker path) :
    (checker.checkFile files path).code = 1 := by
  cases refuses with
  | malformed read spoiled =>
    rw [checkFile_malformed read spoiled]
    rfl
  | rejected read holds failed fault =>
    rw [checkFile_eq_ofResult read holds, failed]
    exact Verdict.code_of_document_fault fault

/-- A file without a verdict has severity two. -/
theorem Blocks.code (blocks : Blocks files checker path) :
    (checker.checkFile files path).code = 2 := by
  cases blocks with
  | unreadable failed =>
    obtain ⟨error, failed⟩ := failed
    rw [checkFile_unreadable failed]
    rfl
  | faulty read holds failed fault =>
    rw [checkFile_eq_ofResult read holds, failed]
    exact Verdict.code_of_setting_fault fault

/-- Every file passes, is refused or has no verdict. -/
theorem passes_or_refuses_or_blocks (files : FileAccess Id) (checker : Checker) (path : String) :
    Passes files checker path ∨ Refuses files checker path ∨ Blocks files checker path := by
  cases read : (files.read path : Except FileError Bytes) with
  | error error => exact .inr (.inr (.unreadable ⟨error, read⟩))
  | ok content =>
    cases holds : Json.ofFile path content with
    | error reason => exact .inr (.inl (.malformed read holds))
    | ok document =>
      cases checked : checker.check document with
      | ok => exact .inl (.accepted read holds checked)
      | error rejection =>
        cases fault : rejection.category with
        | schema => exact .inr (.inl (.rejected read holds checked (.inl fault)))
        | semantic => exact .inr (.inl (.rejected read holds checked (.inr fault)))
        | configuration => exact .inr (.inr (.faulty read holds checked (.inl fault)))
        | internal => exact .inr (.inr (.faulty read holds checked (.inr fault)))

/-- A file passes exactly when its severity is zero. -/
theorem passes_iff : Passes files checker path ↔ (checker.checkFile files path).code = 0 := by
  refine ⟨Passes.code, fun severity => ?_⟩
  obtain passes | refuses | blocks := passes_or_refuses_or_blocks files checker path
  · exact passes
  · have := refuses.code
    omega
  · have := blocks.code
    omega

/-- A file is refused exactly when its severity is one. -/
theorem refuses_iff : Refuses files checker path ↔ (checker.checkFile files path).code = 1 := by
  refine ⟨Refuses.code, fun severity => ?_⟩
  obtain passes | refuses | blocks := passes_or_refuses_or_blocks files checker path
  · have := passes.code
    omega
  · exact refuses
  · have := blocks.code
    omega

/-- A file has no verdict exactly when its severity is two. -/
theorem blocks_iff : Blocks files checker path ↔ (checker.checkFile files path).code = 2 := by
  refine ⟨Blocks.code, fun severity => ?_⟩
  obtain passes | refuses | blocks := passes_or_refuses_or_blocks files checker path
  · have := passes.code
    omega
  · have := refuses.code
    omega
  · exact blocks

end Checker

/-! ### Exit codes -/

/-- The exit code of a report is at most a bound exactly when every severity is. -/
theorem Report.code_le_iff {report : Report} {bound : Nat} :
    report.code ≤ bound ↔ ∀ entry ∈ report.verdicts, entry.2.code ≤ bound := by
  have from_start (verdicts : List (String × Verdict)) (start : Nat) :
      verdicts.foldl (fun code entry => max code entry.2.code) start ≤ bound ↔
        start ≤ bound ∧ ∀ entry ∈ verdicts, entry.2.code ≤ bound := by
    induction verdicts generalizing start with
    | nil => simp
    | cons first rest ih =>
      rw [List.foldl_cons, ih, List.forall_mem_cons, Nat.max_le, and_assoc]
  rw [Report.code, from_start]
  exact and_iff_right (Nat.zero_le bound)

namespace Checker

variable {files : FileAccess Id} {checker : Checker}

/-- The exit code for files is at most a bound exactly when the severity of each is. -/
theorem code_outcome_le_iff {paths : List String} {bound : Nat} :
    (checker.outcome files paths).code ≤ bound ↔
      ∀ path ∈ paths, (checker.checkFile files path).code ≤ bound := by
  change Report.code (checker.report files paths) ≤ bound ↔ _
  rw [Report.code_le_iff, verdicts_report, List.forall_mem_map]

/-- No severity is above two. -/
theorem code_checkFile_le (files : FileAccess Id) (checker : Checker) (path : String) :
    (checker.checkFile files path).code ≤ 2 := by
  show Verdict.code _ ≤ 2
  cases (checker.checkFile files path : Verdict) with
  | pass label => exact Nat.zero_le 2
  | fail label rejection => exact Nat.le_succ 1
  | error obstacle => exact Nat.le_refl 2

/-- Files of which the one list has what the other has end with the same exit code. -/
theorem code_outcome_congr {first second : List String}
    (same : ∀ path, path ∈ first ↔ path ∈ second) :
    (checker.outcome files first).code = (checker.outcome files second).code := by
  refine eq_of_forall_ge_iff fun bound => ?_
  simp only [code_outcome_le_iff, same]

/-- The exit code for two lists of files together is the greater of their codes. -/
theorem code_outcome_append (first second : List String) :
    (checker.outcome files (first ++ second)).code =
      max (checker.outcome files first).code (checker.outcome files second).code := by
  refine eq_of_forall_ge_iff fun bound => ?_
  rw [Nat.max_le]
  simp only [code_outcome_le_iff, List.forall_mem_append]

/-- The exit code is zero exactly when every file passes. -/
theorem code_outcome_eq_zero {paths : List String} :
    (checker.outcome files paths).code = 0 ↔ ∀ path ∈ paths, Passes files checker path := by
  rw [← Nat.le_zero, code_outcome_le_iff]
  simp only [passes_iff, Nat.le_zero]

/-- The exit code is two exactly when there is no verdict on some file. -/
theorem code_outcome_eq_two {paths : List String} :
    (checker.outcome files paths).code = 2 ↔ ∃ path ∈ paths, Blocks files checker path := by
  have most : (checker.outcome files paths).code ≤ 2 :=
    code_outcome_le_iff.2 fun path _ => code_checkFile_le files checker path
  have fewer : ¬ (checker.outcome files paths).code ≤ 1 ↔
      ∃ path ∈ paths, Blocks files checker path := by
    rw [code_outcome_le_iff]
    push Not
    refine exists_congr fun path => and_congr_right fun _ => ?_
    have := code_checkFile_le files checker path
    rw [blocks_iff]
    omega
  rw [← fewer]
  omega

/-- The exit code is one exactly when some file is refused and every file has a verdict. -/
theorem code_outcome_eq_one {paths : List String} :
    (checker.outcome files paths).code = 1 ↔
      (¬ ∃ path ∈ paths, Blocks files checker path) ∧ ∃ path ∈ paths, Refuses files checker path := by
  have most : (checker.outcome files paths).code ≤ 2 :=
    code_outcome_le_iff.2 fun path _ => code_checkFile_le files checker path
  rw [← code_outcome_eq_two]
  have unequal : (checker.outcome files paths).code ≠ 2 →
      ((checker.outcome files paths).code ≠ 0 ↔ ∃ path ∈ paths, Refuses files checker path) := by
    intro verdicts
    rw [Ne, code_outcome_eq_two] at verdicts
    rw [Ne, code_outcome_eq_zero]
    push Not at verdicts ⊢
    refine exists_congr fun path => and_congr_right fun listed => ?_
    have unblocked := verdicts path listed
    have most := code_checkFile_le files checker path
    rw [blocks_iff] at unblocked
    rw [passes_iff, refuses_iff]
    omega
  constructor
  · intro one
    exact ⟨by omega, (unequal (by omega)).1 (by omega)⟩
  · rintro ⟨below, refused⟩
    have := (unequal below).2 refused
    omega

/-! ### Lines -/

/-- A verdict counts as a pass exactly when the file passes. -/
theorem isPass_iff {path : String} :
    (checker.checkFile files path : Verdict).isPass = true ↔ Passes files checker path := by
  rw [passes_iff]
  show Verdict.isPass _ = true ↔ Verdict.code _ = 0
  cases (checker.checkFile files path : Verdict) with
  | pass label => exact iff_of_true rfl rfl
  | fail label rejection => exact iff_of_false Bool.false_ne_true (Nat.succ_ne_zero 0)
  | error obstacle => exact iff_of_false Bool.false_ne_true (Nat.succ_ne_zero 1)

/-- The lines on a file: that of its verdict, and the details below it. -/
def linesOn (files : FileAccess Id) (checker : Checker) (path : String) : List String :=
  let verdict : Verdict := checker.checkFile files path
  verdict.line path :: verdict.details

/-- The line that counts the files that pass among several files. -/
def summaryOf (files : FileAccess Id) (checker : Checker) (paths : List String) : List String :=
  if 1 < paths.length then
    [checker.kind.name ++ ": " ++
      Number.wholeText (paths.countP fun path => (checker.checkFile files path : Verdict).isPass) ++
        "/" ++ Number.wholeText paths.length ++ " passed"]
  else []

/-- What is printed on files are the lines on each, in their order, and then their count. -/
theorem lines_outcome (files : FileAccess Id) (checker : Checker) (paths : List String) :
    (checker.outcome files paths).lines =
      paths.flatMap (checker.linesOn files) ++ checker.summaryOf files paths := by
  show Report.lines (checker.report files paths) = _
  unfold Report.lines Report.summary Report.passCount summaryOf
  rw [verdicts_report, List.flatMap_map, List.length_map, List.countP_eq_length_filter,
    List.filter_map, List.length_map]
  rfl

end Checker

end GatewayCheck
