import GatewayCheck.Proofs.StatusLines

/-!
The limit of reports. A check without a limit would report every violation of the schema, and the
limit of a checker cuts this list off behind its first items. It changes neither what is accepted
nor the first thing that is reported.
-/
namespace GatewayCheck

namespace Rejection

/-- All that a rejection reports of the structure of a document. -/
def reported : Rejection → List Detail
  | structural first others => first :: others
  | _ => []

/-- A rejection with as much of its details as a limit allows. -/
def cut (limit : ReportLimit) : Rejection → Rejection
  | structural first others => structural first (others.take limit.afterFirst)
  | rejection => rejection

/-- A rejection reports one detail at most. -/
def IsLone (rejection : Rejection) : Prop := rejection.reported.length ≤ 1

/-- A limit changes no rejection with one detail. -/
theorem cut_of_isLone {rejection : Rejection} (lone : rejection.IsLone) (limit : ReportLimit) :
    rejection.cut limit = rejection := by
  cases rejection with
  | structural first others =>
    cases others with
    | nil => exact congrArg (structural first) List.take_nil
    | cons second rest =>
      have more : (first :: second :: rest).length ≤ 1 := lone
      simp at more
  | setup | malformed | semantic => rfl

/-- A limit keeps the first details, and one at least. -/
theorem reported_cut (rejection : Rejection) (limit : ReportLimit) :
    (rejection.cut limit).reported = rejection.reported.take (max limit.most 1) := by
  cases rejection with
  | structural first others =>
    have most : max limit.most 1 = limit.afterFirst + 1 := by
      rw [ReportLimit.afterFirst]
      omega
    rw [most]
    rfl
  | setup | malformed | semantic => exact List.take_nil.symm

/-- A limit changes no category. -/
theorem category_cut (rejection : Rejection) (limit : ReportLimit) :
    (rejection.cut limit).category = rejection.category := by
  cases rejection <;> rfl

/-- The rejection for a rule that does not pass reports nothing of the structure. -/
theorem isLone_ofRule (field : String) (failure : RuleFailure) : (ofRule field failure).IsLone := by
  cases failure <;> exact Nat.zero_le 1

end Rejection

/-- Rules report one thing at most of the structure of a document. -/
theorem Rule.isLone_of_checkAll {setting : Rule.Setting} {document : Json} {rules : List Rule}
    {rejection : Rejection} (failed : checkAll setting document rules = .error rejection) :
    rejection.IsLone := by
  obtain ⟨rule, -, rejects⟩ := rejects_of_checkAll failed
  cases rejects with
  | unread => exact Nat.le_refl 1
  | upstream => exact Rejection.isLone_ofRule _ _
  | expression | noList | emptyAddress => exact Nat.zero_le 1

namespace Checker

variable {checker : Checker} {document : Json}

/-! ### Checks without a limit -/

/-- Checks the structure of a document and reports every violation. -/
def fullStructure (checker : Checker) (document : Json) : Except Rejection Unit :=
  match checker.fragment.violations document with
  | [] => .ok ()
  | first :: others =>
    .error (.structural (.violation first) (others.map Detail.violation))

/-- Checks a document and reports every violation. -/
def fullCheck (checker : Checker) (document : Json) : Except Rejection Unit := do
  checker.fullStructure document
  Rule.checkAll checker.setting document checker.kind.rules

/-- Everything that is wrong with the structure of a document. -/
def everyDetail (checker : Checker) (document : Json) : List Detail :=
  match checker.fullCheck document with
  | .ok () => []
  | .error rejection => rejection.reported

/-- Where the schema finds nothing, only rules are left to check. -/
theorem fullCheck_of_nil (found : checker.fragment.violations document = []) :
    checker.fullCheck document = Rule.checkAll checker.setting document checker.kind.rules := by
  rw [fullCheck, fullStructure, found]
  rfl

/-- Where the schema finds violations, they are all reported. -/
theorem fullCheck_of_cons {first : Schema.Violation} {others : List Schema.Violation}
    (found : checker.fragment.violations document = first :: others) :
    checker.fullCheck document =
      .error (.structural (.violation first) (others.map Detail.violation)) := by
  rw [fullCheck, fullStructure, found]
  rfl

/-- A check cuts the check without a limit. -/
theorem check_eq_cut (checker : Checker) (document : Json) :
    checker.check document =
      (checker.fullCheck document).mapError (Rejection.cut checker.limit) := by
  rw [check, checkStructure]
  cases found : checker.fragment.violations document with
  | nil =>
    rw [fullCheck_of_nil found]
    show Rule.checkAll checker.setting document checker.kind.rules = _
    cases ruled : Rule.checkAll checker.setting document checker.kind.rules with
    | ok => rfl
    | error rejection =>
      have same := Rejection.cut_of_isLone (Rule.isLone_of_checkAll ruled) checker.limit
      exact congrArg Except.error same.symm
  | cons first others =>
    rw [fullCheck_of_cons found]
    show Except.error (Rejection.structural _ _) = Except.error (Rejection.structural _ _)
    rw [List.map_take]

/-- The violations of the schema are all that is wrong with the structure of a document; where there
are none, an upstream that cannot be read may be. -/
theorem everyDetail_cases (checker : Checker) (document : Json) :
    checker.everyDetail document = (checker.fragment.violations document).map Detail.violation ∨
      checker.fragment.violations document = [] ∧ (checker.everyDetail document).length = 1 := by
  rw [everyDetail]
  cases found : checker.fragment.violations document with
  | cons first others =>
    rw [fullCheck_of_cons found]
    exact .inl rfl
  | nil =>
    rw [fullCheck_of_nil found]
    cases ruled : Rule.checkAll checker.setting document checker.kind.rules with
    | ok => exact .inl rfl
    | error rejection =>
      have few : rejection.reported.length ≤ 1 := Rule.isLone_of_checkAll ruled
      rcases Nat.le_one_iff_eq_zero_or_eq_one.1 few with none | one
      · exact .inl (List.length_eq_zero_iff.1 none)
      · exact .inr ⟨rfl, one⟩

/-- What a check reports is the start of everything that is wrong with the structure. -/
theorem check_eq_structural {first : Detail} {others : List Detail} :
    checker.check document = .error (.structural first others) ↔
      first :: others = (checker.everyDetail document).take (max checker.limit.most 1) := by
  rw [check_eq_cut, Except.mapError_eq_error, everyDetail]
  cases checker.fullCheck document with
  | ok => simp
  | error rejection =>
    have same : (∃ cause, (Except.error rejection : Except Rejection Unit) = .error cause ∧
        cause.cut checker.limit = .structural first others) ↔
          rejection.cut checker.limit = .structural first others := by simp
    have reports : rejection.cut checker.limit = .structural first others ↔
        (rejection.cut checker.limit).reported = first :: others := by
      cases rejection <;> simp [Rejection.cut, Rejection.reported]
    rw [same, reports, Rejection.reported_cut]
    exact eq_comm

/-- Checks the structure of a document in two steps: whether the schema accepts it, and which
violations are reported if it does not. Another detail stands in where none is found. -/
def structureInSteps (checker : Checker) (standIn : Detail) (document : Json) :
    Except Rejection Unit :=
  if checker.fragment.accepts document then .ok ()
  else
    match (checker.fragment.violations document).take (max checker.limit.most 1) with
    | [] => .error (.structural standIn [])
    | first :: others => .error (.structural (.violation first) (others.map Detail.violation))

/-- Nothing ever stands in for a violation. -/
theorem structureInSteps_eq (checker : Checker) (standIn : Detail) (document : Json) :
    checker.structureInSteps standIn document = checker.checkStructure document := by
  rw [structureInSteps, checkStructure, Fragment.accepts, ← Schema.Compiled.violations_isEmpty]
  show (if (checker.fragment.violations document).isEmpty = true then _ else _) = _
  cases checker.fragment.violations document with
  | nil => rfl
  | cons first others =>
    have most : max checker.limit.most 1 = checker.limit.afterFirst + 1 := by
      rw [ReportLimit.afterFirst]
      omega
    rw [most]
    rfl

/-! ### Two limits -/

/-- What two limits leave of the check of a document. Both checks accept it or neither does, and
they agree on every rejection that is not one of its structure. Of everything that is wrong with the
structure, both report the start: as many things as the limit allows, and one at least. Nothing ever
stands in for a violation. -/
structure AgreeUpToLimit (few many : Checker) (document : Json) : Prop where
  accepted : few.check document = .ok () ↔ many.check document = .ok ()
  faults : ∀ rejection, rejection.category ≠ .schema →
    (few.check document = .error rejection ↔ many.check document = .error rejection)
  reported : ∀ first others second more,
    few.check document = .error (.structural first others) →
      many.check document = .error (.structural second more) →
        second = first ∧ first :: others <+: second :: more
  total : few.everyDetail document = many.everyDetail document ∧
    (few.everyDetail document = (few.fragment.violations document).map Detail.violation ∨
      few.fragment.violations document = [] ∧ (few.everyDetail document).length = 1)
  counted : ∀ checker ∈ [few, many], ∀ first others,
    checker.check document = .error (.structural first others) → (first :: others).length =
      min (max checker.limit.most 1) (checker.everyDetail document).length
  found : ∀ checker ∈ [few, many], ∀ standIn,
    checker.structureInSteps standIn document = checker.checkStructure document

/-- A check accepts what the check without a limit accepts. -/
theorem check_eq_ok_iff_full :
    checker.check document = .ok () ↔ checker.fullCheck document = .ok () := by
  rw [check_eq_cut, Except.mapError_eq_ok]

/-- A check rejects a document for another reason than its structure exactly when the check without
a limit does. -/
theorem check_eq_error_iff_full {rejection : Rejection} (other : rejection.category ≠ .schema) :
    checker.check document = .error rejection ↔ checker.fullCheck document = .error rejection := by
  rw [check_eq_cut, Except.mapError_eq_error]
  constructor
  · rintro ⟨cause, failed, rfl⟩
    rw [Rejection.category_cut] at other
    cases cause with
    | setup | semantic => exact failed
    | malformed | structural => exact absurd rfl other
  · intro failed
    cases rejection with
    | setup | semantic => exact ⟨_, failed, rfl⟩
    | malformed | structural => exact absurd rfl other

/-- A check reports as many details as its limit allows. -/
theorem length_of_check_eq_structural {first : Detail} {others : List Detail}
    (failed : checker.check document = .error (.structural first others)) :
    (first :: others).length =
      min (max checker.limit.most 1) (checker.everyDetail document).length := by
  rw [check_eq_structural.1 failed, List.length_take]

/-- Checkers that differ in their limit alone agree up to it. -/
theorem agreeUpToLimit {few : Checker} {limit : ReportLimit}
    (ordered : few.limit.most ≤ limit.most) (document : Json) :
    AgreeUpToLimit few { few with limit } document where
  accepted := by
    rw [check_eq_ok_iff_full, check_eq_ok_iff_full]
    exact Iff.rfl
  faults rejection other := by
    rw [check_eq_error_iff_full other, check_eq_error_iff_full other]
    exact Iff.rfl
  reported first others second more failed failing := by
    have start := check_eq_structural.1 failed
    have further := check_eq_structural.1 failing
    have less : max few.limit.most 1 ≤ max limit.most 1 := by omega
    have begins : first :: others <+: second :: more := by
      rw [start, further]
      exact List.take_prefix_take_left less
    exact ⟨(List.cons_prefix_cons.1 begins).1.symm, begins⟩
  total := ⟨rfl, everyDetail_cases few document⟩
  counted checker _ first others failed := length_of_check_eq_structural failed
  found checker _ standIn := structureInSteps_eq checker standIn document

/-- Checks with limits that allow as many details are the same. -/
theorem check_congr {limit : ReportLimit} (same : checker.limit.afterFirst = limit.afterFirst) :
    checker.check document = { checker with limit }.check document := by
  rw [check, check, checkStructure, checkStructure, same]

end Checker

/-! ### Verdicts and reports -/

namespace Verdict

/-- A verdict with as much of its details as a limit allows. -/
def cut (limit : ReportLimit) : Verdict → Verdict
  | fail label rejection => fail label (rejection.cut limit)
  | verdict => verdict

variable (verdict : Verdict) (limit : ReportLimit)

/-- A limit changes no line of a verdict. -/
theorem line_cut (path : String) : (verdict.cut limit).line path = verdict.line path := by
  cases verdict with
  | fail label rejection => cases rejection <;> rfl
  | pass | error => rfl

/-- A limit changes no severity. -/
theorem code_cut : (verdict.cut limit).code = verdict.code := by
  cases verdict <;> rfl

/-- A limit changes no pass. -/
theorem isPass_cut : (verdict.cut limit).isPass = verdict.isPass := by
  cases verdict <;> rfl

/-- A limit cuts off the lines below that of a verdict. -/
theorem details_cut : (verdict.cut limit).details = verdict.details.take limit.afterFirst := by
  cases verdict with
  | fail label rejection =>
    cases rejection with
    | structural first others => exact List.map_take
    | setup | malformed | semantic => exact List.take_nil.symm
  | pass | error => exact List.take_nil.symm

/-- The verdict on a document whose check is cut is cut. -/
theorem ofResult_cut (label : String) (result : Except Rejection Unit) :
    ofResult label (result.mapError (Rejection.cut limit)) = (ofResult label result).cut limit := by
  cases result with
  | ok => rfl
  | error rejection => cases rejection <;> rfl

end Verdict

/-- The text of entries, of which each has a line and as much of its details as a number allows, and
of the lines behind them. -/
def printed (entries : List (String × List String)) (behind : List String) (most : Nat) : String :=
  String.join (((entries.flatMap fun entry => entry.1 :: entry.2.take most) ++ behind).map
    fun line => line ++ "\n")

/-- No line of details that begin with blanks and hold no line break is a status line. -/
theorem filter_isStatus_details {details : List String}
    (indented : ∀ detail ∈ details, "    ".toList <+: detail.toList)
    (unbroken : ∀ detail ∈ details, Text.isUnbroken detail = true) :
    (details.flatMap Text.linesOf).filter isStatus = [] := by
  rw [List.filter_eq_nil_iff]
  intro line listed
  obtain ⟨detail, below, listed⟩ := List.mem_flatMap.1 listed
  rw [Text.linesOf_unbroken (unbroken detail below), List.mem_singleton] at listed
  subst listed
  obtain ⟨rest, same⟩ := indented line below
  rw [isStatus, ← same]
  simp [List.isPrefixOf]

/-- Details that begin with blanks and hold no line break add no status line to a text. -/
theorem statusLines_printed {entries : List (String × List String)}
    (indented : ∀ entry ∈ entries, ∀ detail ∈ entry.2, "    ".toList <+: detail.toList)
    (unbroken : ∀ entry ∈ entries, ∀ detail ∈ entry.2, Text.isUnbroken detail = true)
    (behind : List String) (most : Nat) : statusLines (printed entries behind most) =
      statusLines (printed entries behind 0) := by
  rw [printed, printed, Checker.statusLines_join, Checker.statusLines_join, List.flatMap_append,
    List.flatMap_append, List.filter_append, List.filter_append, List.flatMap_assoc,
    List.flatMap_assoc]
  simp only [List.filter_flatMap]
  congr 1
  apply List.flatMap_congr
  intro entry listed
  have none := @filter_isStatus_details (entry.2.take most)
    (fun detail below => indented entry listed detail (List.mem_of_mem_take below))
    (fun detail below => unbroken entry listed detail (List.mem_of_mem_take below))
  simp only [← List.filter_flatMap]
  rw [List.flatMap_cons, List.flatMap_cons, List.filter_append, List.filter_append, none,
    List.take_zero]
  rfl

namespace Checker

variable {files : FileAccess Id} {checker : Checker} {path : String}

/-- The verdict on a file with every violation. -/
def fullVerdict (files : FileAccess Id) (checker : Checker) (path : String) : Verdict :=
  match (files.read path : Except FileError Bytes) with
  | .error error => .error (.unreadable error)
  | .ok content =>
    match Json.ofFile path content with
    | .error reason => .fail "" (.malformed (reason.explained (files.complaint? content)))
    | .ok document => .ofResult document.label (checker.fullCheck document)

/-- The verdict on a file cuts the verdict with every violation. -/
theorem checkFile_eq_cut (files : FileAccess Id) (checker : Checker) (path : String) :
    checker.checkFile files path = (checker.fullVerdict files path).cut checker.limit := by
  cases read : (files.read path : Except FileError Bytes) with
  | error error =>
    rw [checkFile_unreadable read, fullVerdict, read]
    rfl
  | ok content =>
    cases holds : Json.ofFile path content with
    | error reason =>
      rw [checkFile_malformed read holds, fullVerdict, read]
      simp only [holds]
      rfl
    | ok document =>
      rw [checkFile_eq_ofResult read holds, fullVerdict, read, check_eq_cut]
      simp only [holds]
      exact Verdict.ofResult_cut _ _ _

/-- The line on a file, and all that may stand below it. -/
def entryOn (files : FileAccess Id) (checker : Checker) (path : String) : String × List String :=
  ((checker.fullVerdict files path).line path, (checker.fullVerdict files path).details)

/-- What stands below the line of a verdict begins with blanks. -/
theorem indented_entryOn (files : FileAccess Id) (checker : Checker) (path : String) :
    ∀ detail ∈ (checker.entryOn files path).2, "    ".toList <+: detail.toList := by
  intro detail listed
  rw [entryOn] at listed
  cases verdict : checker.fullVerdict files path with
  | pass | error =>
    rw [verdict] at listed
    cases listed
  | fail label rejection =>
    rw [verdict] at listed
    cases rejection with
    | setup | malformed | semantic => cases listed
    | structural first others =>
      obtain ⟨other, -, rfl⟩ := List.mem_map.1 listed
      rw [String.toList_append]
      exact List.prefix_append _ _

/-- A report prints the line on every file and below it as much as the limit allows. -/
theorem text_outcome (files : FileAccess Id) (checker : Checker) (paths : List String) :
    (checker.outcome files paths).text = printed (paths.map (checker.entryOn files))
      (checker.summaryOf files paths) checker.limit.afterFirst := by
  have own (path : String) : checker.linesOn files path = (checker.entryOn files path).1 ::
      (checker.entryOn files path).2.take checker.limit.afterFirst := by
    have verdict := checkFile_eq_cut files checker path
    rw [linesOn, verdict, Verdict.line_cut, Verdict.details_cut]
    rfl
  rw [Outcome.text, lines_outcome, printed, List.flatMap_map]
  simp only [← own]

/-- The line that counts the files is the same for every limit. -/
theorem summaryOf_with_limit (files : FileAccess Id) (checker : Checker) (limit : ReportLimit)
    (paths : List String) :
    { checker with limit }.summaryOf files paths = checker.summaryOf files paths := by
  have same (path : String) : ({ checker with limit }.checkFile files path : Verdict).isPass =
      (checker.checkFile files path : Verdict).isPass := by
    rw [checkFile_eq_cut, checkFile_eq_cut, Verdict.isPass_cut, Verdict.isPass_cut]
    rfl
  simp only [summaryOf, same]

/-- The exit code for files is the same for every limit. -/
theorem code_outcome_with_limit (files : FileAccess Id) (checker : Checker) (limit : ReportLimit)
    (paths : List String) :
    ({ checker with limit }.outcome files paths).code = (checker.outcome files paths).code := by
  have same (path : String) : ({ checker with limit }.checkFile files path : Verdict).code =
      (checker.checkFile files path : Verdict).code := by
    rw [checkFile_eq_cut, checkFile_eq_cut, Verdict.code_cut, Verdict.code_cut]
    rfl
  apply eq_of_forall_ge_iff
  intro bound
  rw [code_outcome_le_iff, code_outcome_le_iff]
  exact forall₂_congr fun path _ => (same path).symm ▸ Iff.rfl

/-- Nothing that may stand below the line on a quiet file holds a line break. -/
theorem isUnbroken_entryOn (unbroken : checker.IsUnbroken) (quiet : files.IsQuiet path) :
    ∀ detail ∈ (checker.entryOn files path).2, Text.isUnbroken detail = true := by
  intro detail listed
  -- a limit that is great enough reports everything
  let limit : ReportLimit := ⟨(checker.entryOn files path).2.length + 1⟩
  have same : IsUnbroken { checker with limit } := ⟨unbroken.schema, unbroken.setting⟩
  have whole : ({ checker with limit }.checkFile files path : Verdict).details =
      (checker.entryOn files path).2 := by
    rw [checkFile_eq_cut, Verdict.details_cut]
    exact List.take_length
  exact (isUnbroken_checkFile same quiet).details detail (whole ▸ listed)

end Checker

end GatewayCheck
