import GatewayCheck.Arguments
import Mathlib.Data.List.Permutation

/-!
Reading command lines. The parts that several commands take have the same effect in each of them,
wherever they stand among the command's own parts, and each choice is the value of its option.
-/
namespace GatewayCheck

/-! ### Parts of command lines -/

namespace Argument

/-- A part that every command takes and that can also stand in front of its name. -/
def isShared : Argument → Bool
  | flag name => name == "verbose"
  | option name _ => name == "config" || name == "log-format" || name == "schema-dir"
  | _ => false

/-- A part that every command with a schema takes. -/
def isCommon : Argument → Bool
  | flag name => name == "verbose"
  | option name _ =>
    name == "config" || name == "log-format" || name == "schema-dir" || name == "gateway-version" ||
      name == "sink"
  | _ => false

/-- A text that is no option. -/
def text? : Argument → Option String
  | word text | literal text => some text
  | _ => none

/-- The value of an option with a name. -/
def valueUnder? (name : String) : Argument → Option String
  | option other value => if other = name then some value else none
  | _ => none

/-- The value of the first option with a name. -/
def value? (name : String) (parts : List Argument) : Option String :=
  parts.findSome? (valueUnder? name)

/-- A shared part is one of four. -/
theorem isShared_cases {part : Argument} (shared : part.isShared = true) :
    part = flag "verbose" ∨ ∃ value, part = option "config" value ∨
      part = option "log-format" value ∨ part = option "schema-dir" value := by
  cases part with
  | flag name => exact .inl (by rw [eq_of_beq shared])
  | option name value =>
    simp only [isShared, Bool.or_eq_true, beq_iff_eq, or_assoc] at shared
    refine .inr ⟨value, ?_⟩
    rcases shared with rfl | rfl | rfl <;> simp
  | word | literal | malformed => cases shared

/-- A common part is shared or names the release or the sink. -/
theorem isCommon_cases {part : Argument} (common : part.isCommon = true) :
    part.isShared = true ∨ ∃ value, part = option "gateway-version" value ∨
      part = option "sink" value := by
  cases part with
  | flag name => exact .inl common
  | option name value =>
    simp only [isCommon, Bool.or_eq_true] at common
    rcases common with (shared | same) | same
    · exact .inl (by simpa only [isShared, Bool.or_eq_true] using shared)
    · exact .inr ⟨value, .inl (by rw [eq_of_beq same])⟩
    · exact .inr ⟨value, .inr (by rw [eq_of_beq same])⟩
  | word | literal | malformed => cases common

end Argument

/-! ### Steps on parts of a state -/

section Join

variable {state first second item : Type} {step : state → item → Option state}
  {onFirst : first → item → Option first} {onSecond : second → item → Option second}
  {join : first → second → state} {isFirst : item → Bool}

/-- Steps that each change one of two parts of a state can be taken on each part alone. -/
theorem foldlM_join {items : List item}
    (left : ∀ item ∈ items, isFirst item = true → ∀ one other,
      step (join one other) item = (onFirst one item).map fun one => join one other)
    (right : ∀ item ∈ items, isFirst item = false → ∀ one other,
      step (join one other) item = (onSecond other item).map fun other => join one other)
    (one : first) (other : second) :
    items.foldlM step (join one other) =
      ((items.filter isFirst).foldlM onFirst one).bind fun one =>
        ((items.filter fun item => !isFirst item).foldlM onSecond other).map fun other =>
          join one other := by
  induction items generalizing one other with
  | nil => rfl
  | cons item rest ih =>
    obtain ⟨here, left⟩ := List.forall_mem_cons.1 left
    obtain ⟨there, right⟩ := List.forall_mem_cons.1 right
    rw [List.foldlM_cons]
    cases side : isFirst item with
    | true =>
      rw [List.filter_cons_of_pos side, List.filter_cons_of_neg (by simp [side]), here side,
        List.foldlM_cons]
      cases onFirst one item with
      | none => rfl
      | some one => exact ih left right one other
    | false =>
      rw [List.filter_cons_of_neg (by simp [side]), List.filter_cons_of_pos (by simp [side]),
        there side, List.foldlM_cons]
      cases onSecond other item with
      | none => exact (Option.bind_fun_none _).symm
      | some other => exact ih left right one other

end Join

namespace Given

/-! ### Common parts -/

/-- What is given with other choices of a release and a sink. -/
def withTarget (given : Given) (target : Option Release × Option Sink) : Given :=
  { given with choices := { given.choices with release? := target.1, sink? := target.2 } }

/-- Takes an option that names the release or the sink. -/
def takeNames? (target : Option Release × Option Sink) :
    Argument → Option (Option Release × Option Sink)
  | .option "gateway-version" value =>
    (once? target.1 (Release.ofName? value)).map fun release => (some release, target.2)
  | .option "sink" value =>
    (once? target.2 (Sink.ofName? value)).map fun sink => (target.1, some sink)
  | _ => none

/-- Shared parts are taken apart from those that name the release and the sink. -/
theorem foldlM_takeTarget? {parts : List Argument}
    (common : ∀ part ∈ parts, part.isCommon = true) (given : Given)
    (target : Option Release × Option Sink) :
    parts.foldlM takeTarget? (given.withTarget target) =
      ((parts.filter Argument.isShared).foldlM takeShared? given).bind fun given =>
        ((parts.filter fun part => !part.isShared).foldlM takeNames? target).map
          given.withTarget := by
  refine foldlM_join (fun part _ shared one other => ?_) (fun part listed names one other => ?_)
    given target
  · rcases Argument.isShared_cases shared with rfl | ⟨value, rfl | rfl | rfl⟩ <;>
      simp [takeTarget?, takeShared?, withTarget, Option.map_map, Function.comp_def]
  · rcases Argument.isCommon_cases (common part listed) with shared | ⟨value, rfl | rfl⟩
    · rw [shared] at names
      cases names
    · simp [takeTarget?, takeNames?, withTarget, Option.map_map, Function.comp_def]
    · simp [takeTarget?, takeNames?, withTarget, Option.map_map, Function.comp_def]

/-! ### Parts of one command -/

/-- What is given with a kind and a wish for one line. -/
def withSchema (given : Given) (own : Option Resource × Bool) : Given :=
  { given with resource? := own.1, isCompact := own.2 }

/-- Takes the parts that only a request for a schema has. -/
def takeOwnSchema? (own : Option Resource × Bool) : Argument → Option (Option Resource × Bool)
  | .option "resource" value =>
    (once? own.1 (Resource.ofName? value)).map fun kind => (some kind, own.2)
  | .flag "compact" => if own.2 then none else some (own.1, true)
  | _ => none

/-- What is given with a kind and files, and without the path of a schema. -/
def withFiles (given : Given) (own : Option Resource × List String) : Given :=
  { given with resource? := own.1, path? := none, files := own.2 }

/-- Takes the parts that only a request for a check has. -/
def takeOwnCheck? (own : Option Resource × List String) :
    Argument → Option (Option Resource × List String)
  | .option "resource" value =>
    (once? own.1 (Resource.ofName? value)).map fun kind => (some kind, own.2)
  | .word text | .literal text => (filePath? text).map fun path => (own.1, own.2 ++ [path])
  | _ => none

/-- The common parts of a request for a schema are taken apart from its own. -/
theorem foldlM_takeSchema? {parts : List Argument} (own : ∀ part ∈ parts, part.isCommon = false →
      part = .flag "compact" ∨ ∃ value, part = .option "resource" value) :
    parts.foldlM takeSchema? nothing =
      ((parts.filter Argument.isCommon).foldlM takeTarget? nothing).bind fun given =>
        ((parts.filter fun part => !part.isCommon).foldlM takeOwnSchema? (none, false)).map
          given.withSchema := by
  change parts.foldlM takeSchema? (nothing.withSchema (none, false)) = _
  refine foldlM_join (fun part _ common one other => ?_) (fun part listed other one two => ?_)
    nothing (none, false)
  · rcases Argument.isCommon_cases common with shared | ⟨value, rfl | rfl⟩
    · rcases Argument.isShared_cases shared with rfl | ⟨value, rfl | rfl | rfl⟩ <;>
        simp [takeSchema?, takeTarget?, takeShared?, withSchema, Option.map_map, Function.comp_def]
    · simp [takeSchema?, takeTarget?, withSchema, Option.map_map, Function.comp_def]
    · simp [takeSchema?, takeTarget?, withSchema, Option.map_map, Function.comp_def]
  · rcases own part listed other with rfl | ⟨value, rfl⟩
    · obtain ⟨kind?, isCompact⟩ := two
      cases isCompact <;> rfl
    · simp [takeSchema?, takeTarget?, takeOwnSchema?, withSchema, Option.map_map, Function.comp_def]

/-- The common parts of a request for a check are taken apart from its own. -/
theorem foldlM_takeValidate? {parts : List Argument}
    (own : ∀ part ∈ parts, part.isCommon = false →
      part.text?.isSome ∨ ∃ value, part = .option "resource" value) :
    parts.foldlM takeValidate? nothing =
      ((parts.filter Argument.isCommon).foldlM takeTarget? nothing).bind fun given =>
        ((parts.filter fun part => !part.isCommon).foldlM takeOwnCheck? (none, [])).map
          given.withFiles := by
  change parts.foldlM takeValidate? (nothing.withFiles (none, [])) = _
  refine foldlM_join (fun part _ common one other => ?_) (fun part listed other one two => ?_)
    nothing (none, [])
  · rcases Argument.isCommon_cases common with shared | ⟨value, rfl | rfl⟩
    · rcases Argument.isShared_cases shared with rfl | ⟨value, rfl | rfl | rfl⟩ <;>
        simp [takeValidate?, takeTarget?, takeShared?, withFiles, Option.map_map,
          Function.comp_def]
    · simp [takeValidate?, takeTarget?, withFiles, Option.map_map, Function.comp_def]
    · simp [takeValidate?, takeTarget?, withFiles, Option.map_map, Function.comp_def]
  · rcases own part listed other with plain | ⟨value, rfl⟩
    · cases part with
      | word text | literal text =>
        simp [takeValidate?, takeFile?, takeOwnCheck?, withFiles, Option.map_map,
          Function.comp_def]
      | option | flag | malformed => cases plain
    · simp [takeValidate?, takeTarget?, takeOwnCheck?, withFiles, Option.map_map,
        Function.comp_def]

/-- The kind and the wish for one line are taken in either order. -/
theorem foldlM_takeOwnSchema? {parts : List Argument} {kind : Resource} {isCompact : Bool}
    (own : parts.Perm (.option "resource" kind.name ::
      if isCompact then [.flag "compact"] else [])) :
    parts.foldlM takeOwnSchema? (none, false) = some (some kind, isCompact) := by
  have named (own : Option Resource × Bool) (free : own.1 = none) :
      takeOwnSchema? own (.option "resource" kind.name) = some (some kind, own.2) := by
    simp [takeOwnSchema?, once?, free]
  have short (own : Option Resource × Bool) (free : own.2 = false) :
      takeOwnSchema? own (.flag "compact") = some (own.1, true) := by
    simp [takeOwnSchema?, free]
  cases isCompact with
  | false =>
    obtain rfl := List.perm_singleton.1 own
    simp [named]
  | true =>
    have either : parts = [.option "resource" kind.name, .flag "compact"] ∨
        parts = [.flag "compact", .option "resource" kind.name] := by
      simpa [List.permutations] using List.mem_permutations.2 own
    rcases either with rfl | rfl
    · simp [named, short]
    · simp [named, short]

/-- Texts are taken as the paths of files. -/
theorem foldlM_takeOwnCheck?_texts {parts : List Argument}
    (texts : ∀ part ∈ parts, part.text?.isSome)
    (solid : ∀ text ∈ parts.filterMap Argument.text?, text ≠ "")
    (kind? : Option Resource) (files : List String) :
    parts.foldlM takeOwnCheck? (kind?, files) =
      some (kind?, files ++ parts.filterMap Argument.text?) := by
  induction parts generalizing files with
  | nil => simp
  | cons part rest ih =>
    obtain ⟨here, later⟩ := List.forall_mem_cons.1 texts
    obtain ⟨text, plain⟩ := Option.isSome_iff_exists.1 here
    rw [List.filterMap_cons_some plain] at solid ⊢
    obtain ⟨full, others⟩ := List.forall_mem_cons.1 solid
    have taken : takeOwnCheck? (kind?, files) part = some (kind?, files ++ [text]) := by
      cases part with
      | word other | literal other =>
        obtain rfl := Option.some.inj plain
        simp [takeOwnCheck?, filePath?, full]
      | option | flag | malformed => cases plain
    rw [List.foldlM_cons, taken]
    change rest.foldlM takeOwnCheck? (kind?, files ++ [text]) = _
    rw [ih later others, List.append_assoc, List.singleton_append]

/-- The kind is taken from among texts, and the texts as the paths of files. -/
theorem foldlM_takeOwnCheck? {parts : List Argument} {kind : Resource}
    (own : (parts.filter fun part => part.text?.isNone) = [.option "resource" kind.name])
    (solid : ∀ text ∈ parts.filterMap Argument.text?, text ≠ "") :
    parts.foldlM takeOwnCheck? (none, []) =
      some (some kind, parts.filterMap Argument.text?) := by
  obtain ⟨before, after, rfl, textsBefore, -, none⟩ := List.filter_eq_cons_iff.1 own
  have isText {part : Argument} (text : ¬ part.text?.isNone = true) : part.text?.isSome := by
    simpa [Option.isSome_iff_ne_none] using text
  have textsAfter : ∀ part ∈ after, part.text?.isSome := fun part listed =>
    isText (List.filter_eq_nil_iff.1 none part listed)
  have named (files : List String) :
      takeOwnCheck? (Option.none, files) (.option "resource" kind.name) =
        some (some kind, files) := by
    simp [takeOwnCheck?, once?]
  have skipped : (before ++ .option "resource" kind.name :: after).filterMap Argument.text? =
      before.filterMap Argument.text? ++ after.filterMap Argument.text? := by
    rw [List.filterMap_append, List.filterMap_cons_none rfl]
  rw [skipped] at solid ⊢
  obtain ⟨solidBefore, solidAfter⟩ := List.forall_mem_append.1 solid
  rw [List.foldlM_append,
    foldlM_takeOwnCheck?_texts (fun part listed => isText (textsBefore part listed)) solidBefore]
  change (.option "resource" kind.name :: after).foldlM takeOwnCheck?
    (Option.none, [] ++ before.filterMap Argument.text?) = _
  rw [List.foldlM_cons, named]
  change after.foldlM takeOwnCheck? (some kind, [] ++ before.filterMap Argument.text?) = _
  rw [foldlM_takeOwnCheck?_texts textsAfter solidAfter, List.nil_append]

/-! ### Choices -/

/-- What a common part changes. -/
inductive TakesCommon (given : Given) : Argument → Given → Prop
  | verbose : TakesCommon given (.flag "verbose") { given with verbosity := given.verbosity + 1 }
  | config {value : String} (free : given.configPath? = none) :
    TakesCommon given (.option "config" value) { given with configPath? := some value }
  | logFormat {value : String} {format : LogFormat} (free : given.logFormat? = none)
    (known : LogFormat.spellings.lookup value = some format) :
    TakesCommon given (.option "log-format" value) { given with logFormat? := some format }
  | schemaDirectory {value : String} (free : given.choices.schemaDirectory? = none) :
    TakesCommon given (.option "schema-dir" value)
      { given with choices := { given.choices with schemaDirectory? := some value } }
  | release {value : String} {release : Release} (free : given.choices.release? = none)
    (known : Release.ofName? value = some release) :
    TakesCommon given (.option "gateway-version" value)
      { given with choices := { given.choices with release? := some release } }
  | sink {value : String} {sink : Sink} (free : given.choices.sink? = none)
    (known : Sink.ofName? value = some sink) :
    TakesCommon given (.option "sink" value)
      { given with choices := { given.choices with sink? := some sink } }

/-- A value goes to a place that is free. -/
theorem once?_eq_some {α : Type} {old? new? : Option α} {value : α} :
    once? old? new? = some value ↔ old? = none ∧ new? = some value := by
  cases old? <;> simp [once?]

/-- The path of a file is its text. -/
theorem filePath?_eq_some {text path : String} :
    filePath? text = some path ↔ text ≠ "" ∧ text = path := by
  simp [filePath?]

/-- A shared part is taken as in front of the name of a command. -/
theorem takeTarget?_of_isShared {part : Argument} (shared : part.isShared = true) (given : Given) :
    given.takeTarget? part = given.takeShared? part := by
  rcases Argument.isShared_cases shared with rfl | ⟨value, rfl | rfl | rfl⟩ <;>
    simp [takeTarget?, takeShared?]

/-- A common part that is taken changes one thing. -/
theorem takesCommon {given after : Given} {part : Argument} (common : part.isCommon = true)
    (taken : given.takeTarget? part = some after) : TakesCommon given part after := by
  rcases Argument.isCommon_cases common with shared | ⟨value, rfl | rfl⟩
  · rw [takeTarget?_of_isShared shared] at taken
    rcases Argument.isShared_cases shared with rfl | ⟨value, rfl | rfl | rfl⟩
    · obtain rfl := Option.some.inj taken
      exact .verbose
    · simp only [takeShared?, Option.map_eq_some_iff, once?_eq_some, filePath?_eq_some] at taken
      obtain ⟨path, ⟨free, -, rfl⟩, rfl⟩ := taken
      exact .config free
    · simp only [takeShared?, Option.map_eq_some_iff, once?_eq_some] at taken
      obtain ⟨format, ⟨free, known⟩, rfl⟩ := taken
      exact .logFormat free known
    · simp only [takeShared?, Option.map_eq_some_iff, once?_eq_some, filePath?_eq_some] at taken
      obtain ⟨path, ⟨free, -, rfl⟩, rfl⟩ := taken
      exact .schemaDirectory free
  · simp only [takeTarget?, Option.map_eq_some_iff, once?_eq_some] at taken
    obtain ⟨release, ⟨free, known⟩, rfl⟩ := taken
    exact .release free known
  · simp only [takeTarget?, Option.map_eq_some_iff, once?_eq_some] at taken
    obtain ⟨sink, ⟨free, known⟩, rfl⟩ := taken
    exact .sink free known

/-- A choice that is the value of its option is that of the first option among common parts. -/
theorem foldlM_value {α : Type} {name : String} {choice : Given → Option α}
    {read : String → Option α}
    (each : ∀ {given part after}, TakesCommon given part after →
      match part.valueUnder? name with
      | some value => choice given = none ∧ (read value).isSome ∧ choice after = read value
      | none => choice after = choice given)
    {parts : List Argument} (common : ∀ part ∈ parts, part.isCommon = true) {given after : Given}
    (taken : parts.foldlM takeTarget? given = some after) :
    choice after = (choice given).or ((Argument.value? name parts).bind read) := by
  induction parts generalizing given with
  | nil =>
    obtain rfl := Option.some.inj taken
    exact Option.or_none.symm
  | cons part rest ih =>
    obtain ⟨here, later⟩ := List.forall_mem_cons.1 common
    rw [List.foldlM_cons] at taken
    obtain ⟨next, first, taken⟩ := Option.bind_eq_some_iff.1 taken
    have change := each (takesCommon here first)
    rw [ih later taken, Argument.value?, Argument.value?, List.findSome?_cons]
    cases named : part.valueUnder? name with
    | some value =>
      rw [named] at change
      obtain ⟨free, known, same⟩ := change
      obtain ⟨chosen, known⟩ := Option.isSome_iff_exists.1 known
      rw [same, free, known]
      exact known.symm
    | none =>
      rw [named] at change
      rw [change]

/-- What common parts choose: a configuration file, a schema directory, a release and a sink. -/
structure Chooses (parts : List Argument) (given : Given) : Prop where
  configPath : given.configPath? = Argument.value? "config" parts
  schemaDirectory : given.choices.schemaDirectory? = Argument.value? "schema-dir" parts
  release : given.choices.release? =
    (Argument.value? "gateway-version" parts).bind Release.ofName?
  sink : given.choices.sink? = (Argument.value? "sink" parts).bind Sink.ofName?

/-- Common parts choose the values of their options. -/
theorem chooses {parts : List Argument} (common : ∀ part ∈ parts, part.isCommon = true)
    {given : Given} (taken : parts.foldlM takeTarget? nothing = some given) :
    Chooses parts given where
  configPath := by
    have value := @foldlM_value String "config" (fun given => given.configPath?) some
      (fun takes => by
        cases takes with
        | config free => exact ⟨free, rfl, rfl⟩
        | _ => rfl) parts common _ _ taken
    exact value.trans (Option.bind_fun_some _)
  schemaDirectory := by
    have value := @foldlM_value String "schema-dir" (fun given => given.choices.schemaDirectory?)
      some (fun takes => by
        cases takes with
        | schemaDirectory free => exact ⟨free, rfl, rfl⟩
        | _ => rfl) parts common _ _ taken
    exact value.trans (Option.bind_fun_some _)
  release := @foldlM_value Release "gateway-version" (fun given => given.choices.release?)
    Release.ofName? (fun takes => by
      cases takes with
      | release free known => exact ⟨free, by rw [known]; rfl, known.symm⟩
      | _ => rfl) parts common _ _ taken
  sink := @foldlM_value Sink "sink" (fun given => given.choices.sink?) Sink.ofName?
    (fun takes => by
      cases takes with
      | sink free known => exact ⟨free, by rw [known]; rfl, known.symm⟩
      | _ => rfl) parts common _ _ taken

/-- Shared parts are taken behind the name of a command as in front of it. -/
theorem foldlM_takeShared? {parts : List Argument} (shared : ∀ part ∈ parts, part.isShared = true)
    (given : Given) : parts.foldlM takeShared? given = parts.foldlM takeTarget? given := by
  induction parts generalizing given with
  | nil => rfl
  | cons part rest ih =>
    obtain ⟨here, later⟩ := List.forall_mem_cons.1 shared
    rw [List.foldlM_cons, List.foldlM_cons, takeTarget?_of_isShared here]
    exact congrArg _ (funext (ih later))

end Given

/-! ### Command lines -/

namespace Invocation

open Given

variable {environment? : Option String} {outer flags : List Argument} {kind : Resource}
  {isCompact : Bool} {paths texts : List String}

/-- A request for the schema of a kind. Shared parts stand in front of the name of the command;
behind it stand common parts, the kind, and perhaps the wish for one line, in any order. -/
def AsksSchema (outer flags : List Argument) (kind : Resource) (isCompact : Bool)
    (texts : List String) : Prop :=
  ∃ inner, Argument.ofTexts texts = outer ++ .word "schema" :: inner ∧
    inner.filter Argument.isCommon = flags ∧
    (inner.filter fun part => !part.isCommon).Perm
      (.option "resource" kind.name :: if isCompact then [.flag "compact"] else [])

/-- A request to check files of a kind. Shared parts stand in front of the name of the command;
behind it stand common parts, the kind, and the paths of the files, in any order. -/
def AsksCheck (outer flags : List Argument) (kind : Resource) (paths texts : List String) : Prop :=
  ∃ inner, Argument.ofTexts texts = outer ++ .word "validate" :: inner ∧
    inner.filter Argument.isCommon = flags ∧
    (inner.filter fun part => !part.isCommon && part.text?.isNone) =
      [.option "resource" kind.name] ∧
    inner.filterMap Argument.text? = paths

/-- A request for the releases. Shared parts stand in front of the name of the command, and those
among the flags behind it. -/
def AsksVersions (outer flags : List Argument) (texts : List String) : Prop :=
  Argument.ofTexts texts = outer ++ .word "versions" :: flags.filter Argument.isShared

/-- What flags ask for: the path of a configuration file, and choices. -/
def flagged? (environment? : Option String) (outer flags : List Argument) :
    Option (Option String × Choices) :=
  (outer.foldlM takeShared? nothing).bind fun before =>
    (flags.foldlM takeTarget? nothing).bind fun behind =>
      (configPath? environment? before behind).map fun path? =>
        (path?, behind.choices.or before.choices)

/-- Shared parts are read up to the name of a command. -/
theorem read?_append (shared : ∀ part ∈ outer, part.isShared = true) (given : Given)
    (text : String) (inner : List Argument) :
    read? environment? given (outer ++ .word text :: inner) =
      (outer.foldlM takeShared? given).bind fun given =>
        (CommandName.spellings.lookup text).bind fun name =>
          readCommand? environment? given name inner := by
  induction outer generalizing given with
  | nil => rfl
  | cons part rest ih =>
    obtain ⟨here, later⟩ := List.forall_mem_cons.1 shared
    have step : read? environment? given (part :: (rest ++ .word text :: inner)) =
        (given.takeShared? part).bind fun given =>
          read? environment? given (rest ++ .word text :: inner) := by
      rcases Argument.isShared_cases here with rfl | ⟨value, rfl | rfl | rfl⟩
      · simp [read?, Option.bind_eq_bind]
      · rfl
      · rfl
      · rfl
    rw [List.cons_append, step, List.foldlM_cons, Option.bind_eq_bind, Option.bind_assoc]
    exact congrArg _ (funext (ih later))

/-- A request for a schema is understood when its flags are. -/
theorem ofTexts?_of_asksSchema (shared : ∀ part ∈ outer, part.isShared = true)
    (asks : AsksSchema outer flags kind isCompact texts) :
    ofTexts? environment? texts = (flagged? environment? outer flags).map fun flagged =>
      .command flagged.1 (.schema ⟨flagged.2, kind, isCompact⟩) := by
  obtain ⟨inner, parts, rfl, own⟩ := asks
  have mine : ∀ part ∈ inner, part.isCommon = false →
      part = .flag "compact" ∨ ∃ value, part = .option "resource" value := by
    intro part listed other
    have listed := own.mem_iff.1 (List.mem_filter.2 ⟨listed, by simp [other]⟩)
    rcases List.mem_cons.1 listed with rfl | listed
    · exact .inr ⟨_, rfl⟩
    · cases isCompact with
      | true => exact .inl (List.mem_singleton.1 listed)
      | false => cases listed
  rw [ofTexts?, parts, read?_append shared, flagged?]
  cases outer.foldlM takeShared? nothing with
  | none => rfl
  | some before =>
    change (inner.foldlM takeSchema? nothing).bind _ = _
    rw [foldlM_takeSchema? mine, foldlM_takeOwnSchema? own]
    cases (inner.filter Argument.isCommon).foldlM takeTarget? nothing with
    | none => rfl
    | some behind =>
      change (configPath? environment? before behind).bind _ =
        ((configPath? environment? before behind).map _).map _
      cases configPath? environment? before behind <;> rfl

/-- A request to check files is understood when its flags are. -/
theorem ofTexts?_of_asksCheck (shared : ∀ part ∈ outer, part.isShared = true)
    (asks : AsksCheck outer flags kind paths texts) (some : paths ≠ [])
    (solid : ∀ path ∈ paths, path ≠ "") :
    ofTexts? environment? texts = (flagged? environment? outer flags).map fun flagged =>
      .command flagged.1 (.validate ⟨flagged.2, kind, none, paths⟩) := by
  obtain ⟨inner, parts, rfl, own, rfl⟩ := asks
  have mine : ∀ part ∈ inner, part.isCommon = false →
      part.text?.isSome ∨ ∃ value, part = .option "resource" value := by
    intro part listed other
    cases plain : part.text? with
    | some text => exact .inl rfl
    | none =>
      have found : part ∈ [Argument.option "resource" kind.name] := by
        rw [← own]
        exact List.mem_filter.2 ⟨listed, by simp [other, plain]⟩
      exact .inr ⟨_, List.mem_singleton.1 found⟩
  have others : inner.filterMap Argument.text? =
      (inner.filter fun part => !part.isCommon).filterMap Argument.text? := by
    rw [List.filterMap_filter]
    refine List.filterMap_congr fun part _ => ?_
    cases part <;> simp [Argument.text?, Argument.isCommon]
  have alone : ((inner.filter fun part => !part.isCommon).filter fun part => part.text?.isNone) =
      [.option "resource" kind.name] := by
    rw [List.filter_filter, ← own]
    exact List.filter_congr fun part _ => Bool.and_comm _ _
  rw [others] at some solid ⊢
  rw [ofTexts?, parts, read?_append shared, flagged?]
  cases outer.foldlM takeShared? nothing with
  | none => rfl
  | some before =>
    change (inner.foldlM takeValidate? nothing).bind _ = _
    rw [foldlM_takeValidate? mine, foldlM_takeOwnCheck? alone solid]
    cases (inner.filter Argument.isCommon).foldlM takeTarget? nothing with
    | none => rfl
    | some behind =>
      have asked : (behind.withFiles (kind, (inner.filter fun part =>
          !part.isCommon).filterMap Argument.text?)).command? before.choices .validate =
            Option.some (.validate ⟨behind.choices.or before.choices, kind, none,
              (inner.filter fun part => !part.isCommon).filterMap Argument.text?⟩) := by
        simp [command?, withFiles, some]
      change (configPath? environment? before behind).bind _ =
        ((configPath? environment? before behind).map _).map _
      cases configPath? environment? before behind with
      | none => rfl
      | some path? =>
        exact congrArg (fun request? => request?.bind fun request =>
          Option.some (Invocation.command path? request)) asked

/-- What flags ask for comes from the values of their options: those behind the name of a command
before those in front of it, and these before the environment. -/
structure Flagged (environment? : Option String) (outer flags : List Argument)
    (path? : Option String) (choices : Choices) : Prop where
  configPath : path? =
    ((Argument.value? "config" flags).or (Argument.value? "config" outer)).or environment?
  schemaDirectory : choices.schemaDirectory? =
    (Argument.value? "schema-dir" flags).or (Argument.value? "schema-dir" outer)
  release : choices.release? = (Argument.value? "gateway-version" flags).bind Release.ofName?
  sink : choices.sink? = (Argument.value? "sink" flags).bind Sink.ofName?

/-- A shared part is common. -/
theorem isCommon_of_isShared (shared : ∀ part ∈ outer, part.isShared = true) :
    ∀ part ∈ outer, part.isCommon = true := by
  intro part listed
  rcases Argument.isShared_cases (shared part listed) with rfl | ⟨value, rfl | rfl | rfl⟩ <;> rfl

/-- Shared parts choose neither a release nor a sink. -/
theorem no_target_of_isShared (shared : ∀ part ∈ outer, part.isShared = true) {given : Given}
    (taken : outer.foldlM takeShared? nothing = some given) :
    given.choices.release? = none ∧ given.choices.sink? = none := by
  have unnamed {name : String} (target : name = "gateway-version" ∨ name = "sink") :
      Argument.value? name outer = none := by
    refine List.findSome?_eq_none_iff.2 fun part listed => ?_
    rcases target with rfl | rfl <;>
      rcases Argument.isShared_cases (shared part listed) with rfl | ⟨value, rfl | rfl | rfl⟩ <;>
        rfl
  rw [foldlM_takeShared? shared] at taken
  have chosen := chooses (isCommon_of_isShared shared) taken
  rw [chosen.release, chosen.sink, unnamed (.inl rfl), unnamed (.inr rfl)]
  exact ⟨rfl, rfl⟩

/-- What flags ask for are the values of their options. -/
theorem flagged (shared : ∀ part ∈ outer, part.isShared = true)
    (common : ∀ part ∈ flags, part.isCommon = true) {path? : Option String} {choices : Choices}
    (asked : flagged? environment? outer flags = some (path?, choices)) :
    Flagged environment? outer flags path? choices := by
  obtain ⟨before, takenBefore, asked⟩ := Option.bind_eq_some_iff.1 asked
  obtain ⟨behind, takenBehind, asked⟩ := Option.bind_eq_some_iff.1 asked
  obtain ⟨path, configured, same⟩ := Option.map_eq_some_iff.1 asked
  obtain ⟨rfl, rfl⟩ := Prod.mk.inj same
  obtain ⟨noRelease, noSink⟩ := no_target_of_isShared shared takenBefore
  rw [foldlM_takeShared? shared] at takenBefore
  have first := chooses (isCommon_of_isShared shared) takenBefore
  have second := chooses common takenBehind
  rw [configPath?] at configured
  split at configured
  · cases configured
  · obtain rfl := Option.some.inj configured
    exact {
      configPath := by rw [first.configPath, second.configPath]
      schemaDirectory := by
        change behind.choices.schemaDirectory?.or before.choices.schemaDirectory? = _
        rw [first.schemaDirectory, second.schemaDirectory]
      release := by
        change behind.choices.release?.or before.choices.release? = _
        rw [second.release, noRelease, Option.or_none]
      sink := by
        change behind.choices.sink?.or before.choices.sink? = _
        rw [second.sink, noSink, Option.or_none] }

/-- A request for the releases is understood with the flags of another command, as if these named no
release and no sink. -/
theorem ofTexts?_of_asksVersions (shared : ∀ part ∈ outer, part.isShared = true)
    (common : ∀ part ∈ flags, part.isCommon = true) (asks : AsksVersions outer flags texts)
    {path? : Option String} {choices : Choices}
    (asked : flagged? environment? outer flags = some (path?, choices)) :
    ofTexts? environment? texts =
      some (.command path? (.versions { choices with release? := none, sink? := none })) := by
  obtain ⟨before, takenBefore, asked⟩ := Option.bind_eq_some_iff.1 asked
  obtain ⟨behind, takenBehind, asked⟩ := Option.bind_eq_some_iff.1 asked
  obtain ⟨path, configured, same⟩ := Option.map_eq_some_iff.1 asked
  obtain ⟨rfl, rfl⟩ := Prod.mk.inj same
  have apart := foldlM_takeTarget? common nothing (none, none)
  change flags.foldlM takeTarget? nothing = _ at apart
  rw [takenBehind] at apart
  obtain ⟨given, taken, apart⟩ := Option.bind_eq_some_iff.1 apart.symm
  obtain ⟨target, -, rfl⟩ := Option.map_eq_some_iff.1 apart
  obtain ⟨releaseBefore, sinkBefore⟩ := no_target_of_isShared shared takenBefore
  obtain ⟨releaseBehind, sinkBehind⟩ :=
    no_target_of_isShared (fun part listed => List.of_mem_filter listed) taken
  have choices : given.choices.or before.choices =
      { (given.withTarget target).choices.or before.choices with
        release? := none, sink? := none } := by
    simp [Choices.or, withTarget, releaseBefore, sinkBefore, releaseBehind, sinkBehind]
  change configPath? environment? before given = some path at configured
  rw [ofTexts?, asks, read?_append shared, takenBefore]
  change ((flags.filter Argument.isShared).foldlM takeShared? nothing).bind _ = _
  rw [taken]
  change (configPath? environment? before given).bind _ = _
  rw [configured, ← choices]
  rfl

end Invocation

end GatewayCheck
