import GatewayCheck.Proofs.Construction
import GatewayCheck.Proofs.ExitCode
import GatewayCheck.Proofs.Rule.Wording
import GatewayCheck.Proofs.SchemaCommand

/-!
Status lines. A report has a status line for every file, in the order of the files, and a script that
reads it takes every line with the first word of a verdict for one. The label of a document and its
keys stand in a report as they are, and so does what the reader of YAML says of content that is no
document, so a file can bring further such lines into it.
-/
namespace GatewayCheck

/-! ### Unbroken libraries -/

/-- No text of a document of a library holds a line break. -/
def Library.IsUnbroken (library : Library) : Prop :=
  ∀ release document, library.document? release = some document → document.isUnbroken = true

/-- A part that is compiled from documents without line breaks shows none. -/
theorem Library.IsUnbroken.compile {library : Library} (unbroken : library.IsUnbroken)
    {release : Release} {path : String} {sink? : Option Sink} {fragment : Fragment}
    (compiled : library.compile release path sink? = .ok fragment) :
    fragment.compiled.IsUnbroken := by
  obtain ⟨schema, compiled, found, done, rfl⟩ := Library.compile_eq_ok.1 compiled
  obtain ⟨document, held, located, -⟩ := Library.fragment_eq_ok.1 found
  have open_schema : schema.isUnbroken = true :=
    (Json.isInherited_isWorded _ _).atPath? (unbroken release document held) located
  have closed : (schema.closedFor sink?).isUnbroken = true := by
    cases sink? with
    | none => exact open_schema
    | some sink => exact Json.isUnbroken_close sink open_schema
  refine Schema.isUnbroken_compile (fun address document served => ?_) closed done
  obtain ⟨release, -, own⟩ := List.mem_filterMap.1 (Entries.mem_of_lookup served)
  obtain ⟨other, held, same⟩ := Option.map_eq_some_iff.1 own
  rw [← (Prod.mk.inj same).2]
  exact unbroken release other held

/-- No text of a packaged document holds a line break. -/
theorem Packaged.isUnbroken : Library.packaged.IsUnbroken := by
  -- Bytes are checked instead of characters, since texts are written out as bytes.
  have every : ∀ release ∈ Release.all,
      (document release).isWorded Text.hasNoFeed Text.hasNoFeed = true := by decide +kernel
  rintro release _ ⟨⟩
  have without (text : String) (absent : Text.hasNoFeed text = true) :
      Text.isUnbroken text = true := Text.isUnbroken_of_hasNoFeed absent
  exact Json.isWorded_mono without without (every release release.mem_all)

/-- A registry over documents without line breaks makes checkers whose schemas show none. -/
theorem Library.IsUnbroken.checker {library : Library} (unbroken : library.IsUnbroken)
    {registry : Registry} (built : Registry.build library = .ok registry) {release : Release}
    {kind : Resource} {path : String} {limit : ReportLimit} {sink : Sink} {checker : Checker}
    (made : Checker.make registry release kind path limit sink = .ok checker) :
    checker.IsUnbroken := by
  obtain ⟨fragment, compiled, rfl⟩ := (Checker.make_eq_ok built).1 made
  refine ⟨unbroken.compile compiled, fun path _ fragment resolved => ?_, fun error fails => ?_⟩
  · rw [Registry.resolveFragment_of_build built] at resolved
    exact unbroken.compile resolved
  · obtain ⟨path, listed, unresolved⟩ := fails
    rw [Registry.resolveFragment_of_build built] at unresolved
    have known : (Registry.Key.hashKey release path).IsKnown := listed
    have missing : library.fragment release path = .error error :=
      (Registry.compile_eq_error_of_build built known).1 unresolved
    obtain ⟨-, rfl⟩ | ⟨-, rfl⟩ := Library.fragment_eq_error.1 missing
    · show Text.isUnbroken (_ ++ Text.quoted release.name) = true
      rw [Text.isUnbroken_append, Text.isUnbroken_quoted]
      rfl
    · have named : Text.isUnbroken release.name = true := by cases release <;> rfl
      show Text.isUnbroken (_ ++ Text.quoted path ++ _ ++ release.name) = true
      rw [Text.isUnbroken_append, Text.isUnbroken_append, Text.isUnbroken_append,
        Text.isUnbroken_quoted, named]
      rfl

/-! ### Lines of verdicts -/

namespace Verdict

/-- The first word on the line of a verdict. -/
def word : Verdict → String
  | pass _ => "PASS"
  | fail _ _ => "FAIL"
  | error _ => "ERROR"

/-- The part of the line of a verdict behind the path. -/
def remainder : Verdict → String
  | pass label => labelSuffix label
  | fail label rejection => labelSuffix label ++ ": " ++ rejection.message
  | error obstacle => ": " ++ obstacle.message

/-- The line of a verdict is its word, the path and the rest. -/
theorem line_eq (verdict : Verdict) (path : String) :
    verdict.line path = verdict.word ++ " " ++ path ++ verdict.remainder := by
  cases verdict <;> simp [line, word, remainder, String.append_assoc]

/-- The start of the line of a verdict, up to a line break behind the path if there is one. -/
def headline (verdict : Verdict) (path : String) : String :=
  verdict.word ++ " " ++ path ++ (Text.linesOf verdict.remainder).headD ""

end Verdict

/-- A line begins with the first word of a verdict. -/
def isStatus (line : String) : Bool :=
  ["PASS ", "FAIL ", "ERROR "].any fun word => word.toList.isPrefixOf line.toList

/-- The status lines of a text, which are its lines that begin with the first word of a verdict. -/
def statusLines (text : String) : List String := (Text.linesOf text).filter isStatus

namespace Verdict

/-- The status lines that a verdict prints below its headline; they speak of no file. -/
def forged (verdict : Verdict) : List String :=
  ((Text.linesOf verdict.remainder).tail ++ verdict.details.flatMap Text.linesOf).filter isStatus

/-- A headline is a status line. -/
theorem isStatus_headline (verdict : Verdict) (path : String) :
    isStatus (verdict.headline path) = true := by
  cases verdict <;> simp [isStatus, headline, word]

/-- A detail is indented, so it is no status line. -/
theorem isStatus_detail {verdict : Verdict} {detail : String} (listed : detail ∈ verdict.details) :
    isStatus detail = false := by
  cases verdict with
  | pass | error => cases listed
  | fail label rejection =>
    cases rejection with
    | structural first others =>
      obtain ⟨other, -, rfl⟩ := List.mem_map.1 listed
      simp [isStatus, List.isPrefixOf]
    | setup | malformed | semantic => cases listed

/-- Behind a path without line breaks, the lines of a verdict have its headline for their only
status line besides those that are forged. -/
theorem statusLines_lines {path : String} (unbroken : Text.isUnbroken path = true)
    (verdict : Verdict) :
    ((verdict.line path :: verdict.details).flatMap Text.linesOf).filter isStatus =
      verdict.headline path :: verdict.forged := by
  have start : Text.isUnbroken (verdict.word ++ " " ++ path) = true := by
    have first : Text.isUnbroken verdict.word = true := by
      cases verdict <;> (rw [word]; rfl)
    rw [Text.isUnbroken_append, Text.isUnbroken_append, first, unbroken]
    rfl
  obtain ⟨line, others, rest, whole⟩ := @Text.linesOf_unbroken_append _ verdict.remainder start
  have headline : verdict.headline path = verdict.word ++ " " ++ path ++ line := by
    rw [Verdict.headline, rest, List.headD_cons]
  have status := verdict.isStatus_headline path
  rw [List.flatMap_cons, line_eq, whole, ← headline, List.cons_append, List.filter_cons,
    if_pos status, forged, rest, List.tail_cons]

/-- A verdict without line breaks behind the path prints one status line. -/
theorem headline_of_unbroken {verdict : Verdict}
    (unbroken : Text.isUnbroken verdict.remainder = true)
    (details : ∀ detail ∈ verdict.details, Text.isUnbroken detail = true) (path : String) :
    verdict.headline path = verdict.line path ∧ verdict.forged = [] := by
  have single := Text.linesOf_unbroken unbroken
  refine ⟨by rw [line_eq, headline, single, List.headD_cons], ?_⟩
  rw [forged, single, List.tail_cons, List.nil_append, List.filter_eq_nil_iff]
  intro line listed
  obtain ⟨detail, below, listed⟩ := List.mem_flatMap.1 listed
  rw [Text.linesOf_unbroken (details detail below), List.mem_singleton] at listed
  rw [listed, isStatus_detail below]
  exact Bool.false_ne_true

end Verdict

/-! ### Reports -/

namespace Checker

variable {files : FileAccess Id} {checker : Checker} {path : String} {paths : List String}

/-- The status lines of lines that are printed one by one are those of each. -/
theorem statusLines_join (lines : List String) :
    statusLines (String.join (lines.map fun line => line ++ "\n")) =
      (lines.flatMap Text.linesOf).filter isStatus := by
  induction lines with
  | nil => rfl
  | cons line rest ih =>
    rw [statusLines] at ih ⊢
    rw [List.map_cons, String.join_cons, Text.linesOf_append, List.filter_append, ih,
      List.flatMap_cons, List.filter_append]

/-- The line that counts the files is no status line. -/
theorem summaryOf_status (files : FileAccess Id) (checker : Checker) (paths : List String) :
    ((checker.summaryOf files paths).flatMap Text.linesOf).filter isStatus = [] := by
  rw [summaryOf]
  split
  · have named : Text.isUnbroken checker.kind.name = true := by cases checker.kind <;> rfl
    have unbroken (passed total : Int) : Text.isUnbroken (checker.kind.name ++ ": " ++
        Number.wholeText passed ++ "/" ++ Number.wholeText total ++ " passed") = true := by
      simp only [Text.isUnbroken_append, named, Json.isUnbroken_wholeText]
      rfl
    -- the name of a kind is in lower case
    have other (rest : String) : isStatus (checker.kind.name ++ rest) = false := by
      cases checker.kind <;> simp [isStatus, Resource.name, List.isPrefixOf]
    rw [List.flatMap_singleton, Text.linesOf_unbroken (unbroken _ _), List.filter_singleton]
    simp only [String.append_assoc, other]
    rfl
  · rfl

/-- The status lines on a file: its headline, and what is forged below. -/
def statusLinesOn (files : FileAccess Id) (checker : Checker) (path : String) : List String :=
  let verdict : Verdict := checker.checkFile files path
  verdict.headline path :: verdict.forged

/-- The status lines of a report are those on every file, in the order of the files. -/
theorem statusLines_outcome (unbroken : ∀ path ∈ paths, Text.isUnbroken path = true) :
    statusLines (checker.outcome files paths).text =
      paths.flatMap (checker.statusLinesOn files) := by
  rw [Outcome.text, statusLines_join, lines_outcome, List.flatMap_append, List.filter_append,
    summaryOf_status, List.append_nil, List.flatMap_assoc, List.filter_flatMap]
  exact List.flatMap_congr fun path listed =>
    Verdict.statusLines_lines (unbroken path listed) (checker.checkFile files path)

/-- The word of a verdict says whether the file passes, is refused or has no verdict. -/
theorem word_iff : ((checker.checkFile files path : Verdict).word = "PASS" ↔
      Passes files checker path) ∧
    ((checker.checkFile files path : Verdict).word = "FAIL" ↔ Refuses files checker path) ∧
    ((checker.checkFile files path : Verdict).word = "ERROR" ↔ Blocks files checker path) := by
  rw [passes_iff, refuses_iff, blocks_iff]
  show (Verdict.word _ = _ ↔ Verdict.code _ = 0) ∧ (Verdict.word _ = _ ↔ Verdict.code _ = 1) ∧
    (Verdict.word _ = _ ↔ Verdict.code _ = 2)
  cases (checker.checkFile files path : Verdict) <;> simp [Verdict.word, Verdict.code]

/-- A report has as many status lines as files exactly when no line is forged. -/
theorem length_statusLines (unbroken : ∀ path ∈ paths, Text.isUnbroken path = true) :
    (statusLines (checker.outcome files paths).text).length = paths.length ↔
      ∀ path ∈ paths, (checker.checkFile files path : Verdict).forged = [] := by
  have own (path : String) : (checker.statusLinesOn files path).length =
      (checker.checkFile files path : Verdict).forged.length + 1 := rfl
  have least (paths : List String) :
      paths.length ≤ (paths.flatMap (checker.statusLinesOn files)).length := by
    induction paths with
    | nil => exact Nat.le_refl 0
    | cons path rest ih =>
      rw [List.flatMap_cons, List.length_append, own, List.length_cons]
      omega
  rw [statusLines_outcome unbroken]
  clear unbroken
  induction paths with
  | nil => exact iff_of_true rfl nofun
  | cons path rest ih =>
    have more := least rest
    have first : (checker.checkFile files path : Verdict).forged.length = 0 ↔
        (checker.checkFile files path : Verdict).forged = [] := List.length_eq_zero_iff
    rw [List.flatMap_cons, List.length_append, own, List.length_cons, List.forall_mem_cons]
    refine Iff.trans ?_ (and_congr first ih)
    omega

end Checker

/-! ### Quiet files -/

/-- A file that brings no line break into a report: the error where it cannot be read holds none; it
holds no document and, if it is named as YAML, what the reader of YAML says of it holds none; or
neither the label nor a key of its document holds one. -/
inductive FileAccess.IsQuiet (files : FileAccess Id) (path : String) : Prop
  | unreadable {error : FileError} (failed : files.read path = Except.error error)
    (unbroken : Text.isUnbroken error.message = true)
  | malformed {content : Bytes} {reason : Malformed} (read : files.read path = Except.ok content)
    (spoiled : Json.ofFile path content = .error reason)
    (unbroken : ∀ complaint, isYamlPath path = true → files.complaint? content = some complaint →
      Text.isUnbroken complaint = true)
  | document {content : Bytes} {document : Json} (read : files.read path = Except.ok content)
    (holds : Json.ofFile path content = .ok document)
    (label : Text.isUnbroken document.label = true) (keys : document.hasUnbrokenKeys = true)

/-- The reason why bytes are no JSON document is told without line breaks. -/
theorem Json.ReadError.isUnbroken_message (error : Json.ReadError) :
    Text.isUnbroken error.message = true := by
  have fault : Text.isUnbroken error.fault.message = true := by
    cases error.fault <;> decide
  show Text.isUnbroken (error.fault.message ++ _ ++ Number.wholeText error.line ++ _ ++
    Number.wholeText error.column) = true
  simp only [Text.isUnbroken_append, fault, Json.isUnbroken_wholeText]
  rfl

/-- The reason why a file holds no document is told without line breaks when its reader says nothing
with one, as the reader of JSON never does. -/
theorem Malformed.isUnbroken_explained {path : String} {content : Bytes} {reason : Malformed}
    {complaint? : Option String} (spoiled : Json.ofFile path content = .error reason)
    (unbroken : ∀ complaint, isYamlPath path = true → complaint? = some complaint →
      Text.isUnbroken complaint = true) :
    Text.isUnbroken (reason.explained complaint?).message = true := by
  by_cases yaml : isYamlPath path = true
  · rw [Json.ofFile, if_pos yaml] at spoiled
    have unread : reason = .yaml none := by
      cases read : Json.ofYaml? content with
      | none => rw [read] at spoiled; exact (Except.error.inj spoiled).symm
      | some document => rw [read] at spoiled; cases spoiled
    subst unread
    cases complaint? with
    | none => decide
    | some complaint =>
      show Text.isUnbroken ("invalid YAML: " ++ complaint) = true
      rw [Text.isUnbroken_append, unbroken complaint yaml rfl]
      rfl
  · rw [Json.ofFile_eq_ofBytes (Bool.eq_false_iff.2 yaml)] at spoiled
    obtain ⟨error, -, rfl⟩ := Except.mapError_eq_error.1 spoiled
    exact error.isUnbroken_message

namespace Verdict

/-- A label behind a path holds a line break only if the label does. -/
theorem isUnbroken_labelSuffix {label : String} (unbroken : Text.isUnbroken label = true) :
    Text.isUnbroken (labelSuffix label) = true := by
  rw [labelSuffix]
  split
  · rfl
  · rw [Text.isUnbroken_append, Text.isUnbroken_append, unbroken]
    rfl

/-- The line and the details of a verdict hold no line break. -/
structure IsUnbroken (verdict : Verdict) : Prop where
  remainder : Text.isUnbroken verdict.remainder = true
  details : ∀ detail ∈ verdict.details, Text.isUnbroken detail = true

/-- A rejection without line breaks of a document with such a label is a verdict without any. -/
theorem isUnbroken_fail {label : String} {rejection : Rejection}
    (named : Text.isUnbroken label = true) (unbroken : rejection.IsUnbroken) :
    (fail label rejection).IsUnbroken where
  remainder := by
    show Text.isUnbroken (labelSuffix label ++ ": " ++ rejection.message) = true
    rw [Text.isUnbroken_append, Text.isUnbroken_append, isUnbroken_labelSuffix named,
      unbroken.message]
    rfl
  details := by
    cases rejection with
    | structural first others =>
      refine List.forall_mem_map.2 fun detail listed => ?_
      rw [Text.isUnbroken_append, (unbroken.2 detail listed).line]
      rfl
    | setup | malformed | semantic => exact nofun

/-- The verdict on a document without line breaks holds none. -/
theorem isUnbroken_ofResult {label : String} {result : Except Rejection Unit}
    (named : Text.isUnbroken label = true)
    (unbroken : ∀ rejection, result = .error rejection → rejection.IsUnbroken) :
    (ofResult label result).IsUnbroken := by
  cases result with
  | ok => exact ⟨isUnbroken_labelSuffix named, nofun⟩
  | error rejection =>
    have own := unbroken rejection rfl
    cases rejection with
    | setup fault =>
      refine ⟨?_, nofun⟩
      show Text.isUnbroken (": " ++ (Rejection.setup fault).message) = true
      rw [Text.isUnbroken_append, own.message]
      rfl
    | malformed | structural | semantic => exact isUnbroken_fail named own

end Verdict

/-- The verdict on a quiet file holds no line break. -/
theorem Checker.isUnbroken_checkFile {files : FileAccess Id} {checker : Checker} {path : String}
    (unbroken : checker.IsUnbroken) (quiet : files.IsQuiet path) :
    Verdict.IsUnbroken (checker.checkFile files path) := by
  cases quiet with
  | unreadable failed named =>
    rw [checkFile_unreadable failed]
    refine ⟨?_, nofun⟩
    show Text.isUnbroken (": " ++ ("failed to read file: " ++ FileError.message _)) = true
    rw [Text.isUnbroken_append, Text.isUnbroken_append, named]
    rfl
  | malformed read spoiled told =>
    rw [checkFile_malformed read spoiled]
    refine Verdict.isUnbroken_fail rfl ?_
    show Text.isUnbroken ("invalid JSON document: " ++ Malformed.message _) = true
    rw [Text.isUnbroken_append, Malformed.isUnbroken_explained spoiled told]
    rfl
  | document read holds label keys =>
    rw [checkFile_eq_ofResult read holds]
    exact Verdict.isUnbroken_ofResult label fun _ failed => unbroken.check keys failed

/-! ### Programs -/

/-- The checker of a command is made by a registry over its own library. -/
theorem ValidateCommand.IsSetUp.isUnbroken {files : FileAccess Id} {configPath? : Option String}
    {command : ValidateCommand} {checker : Checker}
    (ready : command.IsSetUp files configPath? checker)
    (unbroken : checker.setting.registry.library.IsUnbroken) : checker.IsUnbroken := by
  obtain ⟨config, -, made⟩ := ready
  obtain ⟨settings, goal, registry, -, -, built, made⟩ := ValidateCommand.checker_eq_ok.1 made
  obtain ⟨-, complete⟩ := Settings.loads_of_registry built
  obtain ⟨_, -, rfl⟩ := (Checker.make_eq_ok complete).1 made
  exact unbroken.checker complete made

/-- A command with a checker prints the report of the checker on its files. -/
theorem ValidateCommand.output_of_isSetUp {files : FileAccess Id}
    {environment? configPath? : Option String} {arguments : List String} {command : ValidateCommand}
    {checker : Checker} (parsed : Invocation.ofTexts? environment? arguments =
      some (.command configPath? (.validate command)))
    (ready : command.IsSetUp files configPath? checker) :
    (Ending.ofResult (runProgram files environment? arguments)).output =
      (checker.outcome files command.files).text := by
  rw [runProgram_of_isSetUp parsed ready]
  rfl

/-- What the status lines of an output say of some files. Every file has a headline, in the order of
the files, which begins with the word for the outcome on the file and with its path. There are no
other status lines exactly when no verdict forges one below its headline, and over documents without
line breaks no verdict on a quiet file does. -/
structure Checker.StatusLinesFollow (files : FileAccess Id) (checker : Checker)
    (paths : List String) (output : String) : Prop where
  order : statusLines output = paths.flatMap fun path =>
    (checker.checkFile files path : Verdict).headline path ::
      (checker.checkFile files path : Verdict).forged
  named : ∀ path, ∃ rest, (checker.checkFile files path : Verdict).headline path =
    (checker.checkFile files path : Verdict).word ++ " " ++ path ++ rest
  passed : ∀ path, (checker.checkFile files path : Verdict).word = "PASS" ↔
    checker.Passes files path
  refused : ∀ path, (checker.checkFile files path : Verdict).word = "FAIL" ↔
    checker.Refuses files path
  blocked : ∀ path, (checker.checkFile files path : Verdict).word = "ERROR" ↔
    checker.Blocks files path
  single : (statusLines output).length = paths.length ↔
    ∀ path ∈ paths, (checker.checkFile files path : Verdict).forged = []
  quiet : checker.setting.registry.library.IsUnbroken → (∀ path ∈ paths, files.IsQuiet path) →
    statusLines output = paths.map fun path => (checker.checkFile files path : Verdict).line path

/-- The output of a command that gets past its set-up has the headline of every file, in the order of
the files. Over schemas without line breaks, as the packaged ones are, three things can bring further
status lines into it: the label and the keys of a document, what the reader of YAML says of content
that is no document, in which it may quote a key as it is, and the text of the system about a file
that cannot be read. Where these hold no line break, whatever the other texts of the documents are,
there is one status line for each file. -/
theorem status_lines_follow_files (files : FileAccess Id) :
    Library.packaged.IsUnbroken ∧
      ∀ environment? arguments configPath? command checker,
        Invocation.ofTexts? environment? arguments =
            some (.command configPath? (.validate command)) →
          command.IsSetUp files configPath? checker →
            (∀ path ∈ command.files, Text.isUnbroken path = true) →
              checker.StatusLinesFollow files command.files
                (Ending.ofResult (runProgram files environment? arguments)).output := by
  refine ⟨Packaged.isUnbroken, ?_⟩
  intro environment? arguments configPath? command checker parsed ready unbroken
  rw [ValidateCommand.output_of_isSetUp parsed ready]
  have lines := @Checker.statusLines_outcome files checker command.files unbroken
  refine {
    order := lines
    named := fun path => ⟨_, rfl⟩
    passed := fun path => Checker.word_iff.1
    refused := fun path => Checker.word_iff.2.1
    blocked := fun path => Checker.word_iff.2.2
    single := Checker.length_statusLines unbroken
    quiet := fun plain quiet => ?_ }
  have single (path : String) (listed : path ∈ command.files) :
      checker.statusLinesOn files path = [(checker.checkFile files path : Verdict).line path] := by
    have verdict := Checker.isUnbroken_checkFile (ready.isUnbroken plain) (quiet path listed)
    obtain ⟨headline, none⟩ := Verdict.headline_of_unbroken verdict.remainder verdict.details path
    rw [Checker.statusLinesOn, headline, none]
  rw [lines, List.flatMap_congr single]
  exact List.map_eq_flatMap.symm

/-- Metadata of a plugin and a list have one status line each, whose words are those of a pass and of
a failure. -/
theorem status_lines_of_drawer : ∃ rest,
    statusLines (Ending.ofResult (runProgram drawer none
      ["validate", "--resource", "plugin_metadata", "good.json", "bad.json"])).output =
        ["PASS good.json (a)", "FAIL bad.json: " ++ rest] := by
  obtain ⟨registry, checker, built, made, ready, passes, first, others, failed⟩ :=
    Packaged.metadata_is_set_up drawer
  have parsed : Invocation.ofTexts? none
      ["validate", "--resource", "plugin_metadata", "good.json", "bad.json"] =
        some (.command none (.validate
          ⟨.none, some .pluginMetadata, none, ["good.json", "bad.json"]⟩)) := by cbv
  have good : drawer.read "good.json" =
      Except.ok (Text.encode "\x7b\"id\":\"a\"\x7d") := rfl
  have bad : drawer.read "bad.json" = Except.ok (Text.encode "[]") := rfl
  have list : Json.ofFile "bad.json" (Text.encode "[]") = .ok (.array []) := rfl
  obtain ⟨plain, follow⟩ := status_lines_follow_files drawer
  have follows := follow none _ none _ checker parsed (ready _) (by decide)
  have library : checker.setting.registry.library = Library.packaged := by
    obtain ⟨_, -, rfl⟩ := (Checker.make_eq_ok built).1 made
    exact Registry.library_of_build built
  have quiet : ∀ path ∈ ["good.json", "bad.json"], drawer.IsQuiet path :=
    List.forall_mem_cons.2 ⟨.document good drawer_good rfl rfl,
      List.forall_mem_singleton.2 (.document bad list rfl rfl)⟩
  have lines := follows.quiet (library ▸ plain) quiet
  rw [lines, List.map_cons, List.map_singleton, Checker.checkFile_eq_ofResult good drawer_good,
    Checker.checkFile_eq_ofResult bad list, passes, failed]
  exact ⟨_, rfl⟩

/-- A directory with metadata of a plugin whose id has a second line. -/
def letterbox : FileAccess Id :=
  (FileTree.directory [("a.json",
    .file (Text.encode "\x7b\"id\":\"x\\nPASS b.json\"\x7d"))]).access

/-- One file, and two status lines: the second speaks of a file that is not there. -/
theorem forged_status_line : (∃ checker, ValidateCommand.IsSetUp letterbox none
      ⟨.none, some .pluginMetadata, none, ["a.json"]⟩ checker) ∧
    statusLines (Ending.ofResult (runProgram letterbox none
      ["validate", "--resource", "plugin_metadata", "a.json"])).output =
        ["PASS a.json (x", "PASS b.json)"] := by
  obtain ⟨registry, checker, built, made, ready, passes, -⟩ :=
    Packaged.metadata_is_set_up letterbox
  have parsed : Invocation.ofTexts? none ["validate", "--resource", "plugin_metadata", "a.json"] =
      some (.command none (.validate ⟨.none, some .pluginMetadata, none, ["a.json"]⟩)) := by cbv
  have read : letterbox.read "a.json" =
      Except.ok (Text.encode "\x7b\"id\":\"x\\nPASS b.json\"\x7d") := rfl
  have holds : Json.ofFile "a.json" (Text.encode "\x7b\"id\":\"x\\nPASS b.json\"\x7d") =
      .ok (.object [("id", .string "x\nPASS b.json")]) := by
    have text : Json.ofBytes (Text.encode "\x7b\"id\":\"x\\nPASS b.json\"\x7d") =
        .ok (.object [("id", .string "x\nPASS b.json")]) := by cbv
    rw [Json.ofFile_eq_ofBytes (by decide +kernel), text]
    rfl
  have verdict : checker.checkFile letterbox "a.json" = Verdict.pass "x\nPASS b.json" := by
    rw [Checker.checkFile_eq_ofResult read holds, passes]
    rfl
  have unbroken : ∀ path ∈ ["a.json"], Text.isUnbroken path = true := by decide
  have headline : (Verdict.pass "x\nPASS b.json").headline "a.json" = "PASS a.json (x" := by decide
  have forged : (Verdict.pass "x\nPASS b.json").forged = ["PASS b.json)"] := by decide
  have output := ValidateCommand.output_of_isSetUp parsed (ready ["a.json"])
  refine ⟨⟨checker, ready _⟩, ?_⟩
  rw [output, Checker.statusLines_outcome unbroken, List.flatMap_singleton, Checker.statusLinesOn,
    verdict, headline, forged]

end GatewayCheck
