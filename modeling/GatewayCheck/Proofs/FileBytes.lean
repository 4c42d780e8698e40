import GatewayCheck.Proofs.ExitCode
import GatewayCheck.Proofs.Label

/-!
Files and their bytes. A file that is not named as YAML is judged as its bytes are, and it is
reported under the label of its bytes; a fault of the setting or of the schemas is reported as an
obstacle in place of a rejection.
-/
namespace GatewayCheck

/-! ### Verdicts -/

namespace Verdict

variable {label other : String} {result : Except Rejection Unit} {rejection : Rejection}

/-- A document passes exactly when its check does. -/
theorem ofResult_eq_pass : ofResult label result = pass other ↔
    result = .ok () ∧ other = label := by
  constructor
  · intro verdict
    cases result with
    | ok =>
      cases verdict
      exact ⟨rfl, rfl⟩
    | error reason => cases reason <;> cases verdict
  · rintro ⟨rfl, rfl⟩
    rfl

/-- A document fails exactly when its check ends with a rejection that is the document's fault. -/
theorem ofResult_eq_fail : ofResult label result = fail other rejection ↔
    (result = .error rejection ∧
      (rejection.category = .schema ∨ rejection.category = .semantic)) ∧ other = label := by
  constructor
  · intro verdict
    cases result with
    | ok => cases verdict
    | error reason =>
      cases reason with
      | setup => cases verdict
      | malformed | structural =>
        cases verdict
        exact ⟨⟨rfl, .inl rfl⟩, rfl⟩
      | semantic =>
        cases verdict
        exact ⟨⟨rfl, .inr rfl⟩, rfl⟩
  · rintro ⟨⟨rfl, fault⟩, rfl⟩
    exact ofResult_of_document_fault fault

/-- There is no verdict exactly when the check ends with a fault of the setting or of the schemas,
and that fault is reported. -/
theorem ofResult_eq_error {reason : String} :
    (∃ obstacle, ofResult label result = error obstacle ∧ obstacle.message = reason) ↔
      ∃ rejection, result = .error rejection ∧
        (rejection.category = .configuration ∨ rejection.category = .internal) ∧
          rejection.message = reason := by
  constructor
  · rintro ⟨obstacle, verdict, told⟩
    cases result with
    | ok => cases verdict
    | error rejection =>
      cases rejection with
      | malformed | structural | semantic => cases verdict
      | setup fault =>
        cases verdict
        exact ⟨_, rfl, Rejection.category_setup fault, told⟩
  · rintro ⟨rejection, rfl, fault, told⟩
    cases rejection with
    | setup error => exact ⟨_, rfl, told⟩
    | malformed | structural | semantic => rcases fault with fault | fault <;> cases fault

end Verdict

namespace Checker

variable {files : FileAccess Id} {path : String} {content : Bytes}

/-- The verdict on a file that is not named as YAML is that of the check of its bytes. -/
theorem checkFile_eq_ofBytes (checker : Checker) (plain : isYamlPath path = false)
    (read : files.read path = Except.ok content) : checker.checkFile files path =
      Verdict.ofResult (labelOfBytes content) (checker.checkBytes content) := by
  have file := Json.ofFile_eq_ofBytes plain content
  rw [labelOfBytes, checkBytes]
  cases holds : Json.ofBytes content with
  | error error =>
    rw [holds] at file
    rw [checkFile_malformed read file]
    rfl
  | ok document =>
    rw [holds] at file
    rw [checkFile_eq_ofResult read file]

/-- A file that can be read and is not named as YAML passes, fails or has no verdict as its bytes
do: it fails with their rejection, and the obstacle is told in the words of theirs. It is reported
under the label of the bytes. -/
theorem file_is_judged_as_its_bytes (files : FileAccess Id) (checker : Checker) (path : String)
    (content : Bytes) (plain : extension? path ≠ some "yaml" ∧ extension? path ≠ some "yml")
    (read : files.read path = Except.ok content) :
    (∀ label, checker.checkFile files path = Verdict.pass label ↔
      checker.checkBytes content = .ok () ∧ label = labelOfBytes content) ∧
    (∀ label rejection, checker.checkFile files path = Verdict.fail label rejection ↔
      (checker.checkBytes content = .error rejection ∧
        (rejection.category = .schema ∨ rejection.category = .semantic)) ∧
          label = labelOfBytes content) ∧
    (∀ reason, (∃ obstacle, checker.checkFile files path = Verdict.error obstacle ∧
        obstacle.message = reason) ↔
      ∃ rejection, checker.checkBytes content = .error rejection ∧
        (rejection.category = .configuration ∨ rejection.category = .internal) ∧
          rejection.message = reason) ∧
    (∀ members, Json.ofBytes content = .ok (.object members) → ∀ label,
      (Json.object members).IsLabelled label ↔ labelOfBytes content = label) ∧
    ((∀ members, Json.ofBytes content ≠ .ok (.object members)) → labelOfBytes content = "") := by
  have json : isYamlPath path = false := by
    simp only [isYamlPath, decide_eq_false plain.1, decide_eq_false plain.2, Bool.or_self]
  rw [checkFile_eq_ofBytes checker json read]
  refine ⟨fun _ => Verdict.ofResult_eq_pass, fun _ _ => Verdict.ofResult_eq_fail,
    fun _ => Verdict.ofResult_eq_error, fun members holds label => ?_, labelOfBytes_of_not_object⟩
  rw [labelOfBytes, holds]
  exact Json.isLabelled_iff

/-- Metadata of a plugin passes as its bytes do, under their id. A list fails without a label, with
the rejection of its bytes. -/
theorem drawer_is_judged_as_its_bytes : ∃ checker : Checker, ∃ rejection : Rejection,
    checker.checkBytes (Text.encode "\x7b\"id\":\"a\"\x7d") = .ok () ∧
      checker.checkFile drawer "good.json" = Verdict.pass "a" ∧
      checker.checkBytes (Text.encode "[]") = .error rejection ∧
      checker.checkFile drawer "bad.json" = Verdict.fail "" rejection := by
  obtain ⟨-, checker, -, -, -, passes, first, others, failed⟩ :=
    Packaged.metadata_is_set_up drawer
  have document : Json.ofBytes (Text.encode "\x7b\"id\":\"a\"\x7d") =
      .ok (.object [("id", .string "a")]) := by
    have file := drawer_good
    rw [Json.ofFile_eq_ofBytes (by decide +kernel)] at file
    exact Except.mapError_eq_ok.1 file
  have list : Json.ofBytes (Text.encode "[]") = .ok (.array []) := by cbv
  have good : checker.checkBytes (Text.encode "\x7b\"id\":\"a\"\x7d") = .ok () := by
    rw [checkBytes, document]
    exact passes "a"
  have bad : checker.checkBytes (Text.encode "[]") = .error (.structural first others) := by
    rw [checkBytes, list]
    exact failed
  obtain ⟨passed, -⟩ := file_is_judged_as_its_bytes drawer checker "good.json" _
    (by decide +kernel) rfl
  obtain ⟨-, refused, -, -, unlabelled⟩ := file_is_judged_as_its_bytes drawer checker "bad.json" _
    (by decide +kernel) rfl
  refine ⟨checker, .structural first others, good, ?_, bad, ?_⟩
  · refine (passed "a").2 ⟨good, ?_⟩
    rw [labelOfBytes, document]
    rfl
  · refine (refused "" _).2 ⟨⟨bad, .inl rfl⟩, (unlabelled fun members => ?_).symm⟩
    rw [list]
    intro same
    cases same

end Checker

end GatewayCheck
