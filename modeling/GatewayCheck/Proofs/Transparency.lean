import GatewayCheck.Proofs.Json.Members
import GatewayCheck.Proofs.Packaged.Registry

/-!
Registries answer as their libraries do. The table that is compiled in advance can be built kind by
kind, giving up a kind at the first sink that finds nothing to compile, and no answer shows whether
it comes from the table. For the lenient sink a fragment shows the schema as it stands in the
document; for the strict sink it shows at most one member more.
-/
namespace GatewayCheck

/-! ### What a sink shows -/

namespace Json

/-- A schema that declares properties and says nothing of other members. -/
def IsClosable (schema : Json) : Prop :=
  (schema.get? "properties").isSome ∧ schema.get? "additionalProperties" = none

/-- A schema with one member more, which refuses undeclared members and stands where its key
belongs; all other members are the same. -/
structure AddsRefusal (schema closed : Json) : Prop where
  added : ∃ before after, schema = .object (before ++ after) ∧
    closed = .object (before ++ ("additionalProperties", .bool false) :: after)
  sorted : (schema.members.map Prod.fst).Pairwise (· < ·) →
    (closed.members.map Prod.fst).Pairwise (· < ·)

end Json

namespace Sink

/-- The strict sink leaves a schema as it is that cannot be closed. -/
theorem close_of_not_isClosable (sink : Sink) {schema : Json} (kept : ¬ schema.IsClosable) :
    sink.close schema = schema := by
  cases schema with
  | object fields =>
    rcases sink.close_cases fields with same | ⟨-, present, absent, -⟩
    · exact same
    · exact absurd ⟨present, absent⟩ kept
  | null | bool | number | string | array => rfl

/-- The strict sink refuses undeclared members when the schema leaves it open. -/
theorem close_of_isClosable {schema : Json} (closable : schema.IsClosable) :
    schema.AddsRefusal (runtime.close schema) := by
  cases schema with
  | object fields =>
    obtain ⟨present, absent⟩ := closable
    simp only [Json.get?, Json.members] at present absent
    obtain ⟨before, after, split, inserted⟩ := Json.insertMember_of_absent (.bool false) absent
    have closed : runtime.close (.object fields) =
        .object (Json.insertMember "additionalProperties" (.bool false) fields) := by
      simp [close, isStrict, present, absent]
    rw [closed]
    exact ⟨⟨before, after, by rw [split], by rw [inserted]⟩, Json.insertMember_sorted⟩
  | null | bool | number | string | array => cases closable.1

end Sink

/-- What a fragment shows of a schema for a sink. -/
structure Fragment.Shows (fragment : Fragment) (sink : Sink) (schema : Json) : Prop where
  unchanged : sink = .draft ∨ ¬ schema.IsClosable → fragment.text = schema.compact
  closed : sink = .runtime → schema.IsClosable →
    ∃ closed, schema.AddsRefusal closed ∧ fragment.text = closed.compact

namespace Library

variable {library : Library} {release : Release} {path : String}

/-- A fragment carries the selector that it was compiled for, and holds the schema of the document
as the sink closes it. -/
theorem fragment_of_compile {sink? : Option Sink} {fragment : Fragment}
    (compiled : library.compile release path sink? = .ok fragment) :
    fragment.release = release ∧ fragment.path = path ∧ fragment.sink? = sink? ∧
      ∃ schema, library.fragment release path = .ok schema ∧
        fragment.schema = schema.closedFor sink? := by
  obtain ⟨schema, compiled, found, -, rfl⟩ := compile_eq_ok.1 compiled
  exact ⟨rfl, rfl, rfl, schema, found, rfl⟩

/-- A fragment that is compiled for a sink shows the schema of the document. -/
theorem shows_of_compile {sink : Sink} {fragment : Fragment}
    (compiled : library.compile release path (some sink) = .ok fragment) :
    ∃ schema, library.fragment release path = .ok schema ∧ fragment.Shows sink schema := by
  obtain ⟨-, -, -, schema, found, held⟩ := fragment_of_compile compiled
  refine ⟨schema, found, ?_, ?_⟩
  · rintro (rfl | kept)
    · rw [Fragment.text, held, Json.closedFor, Option.elim_some, Sink.close_draft]
    · rw [Fragment.text, held, Json.closedFor, Option.elim_some, Sink.close_of_not_isClosable sink kept]
  · rintro rfl closable
    exact ⟨_, Sink.close_of_isClosable closable, by rw [Fragment.text, held, Json.closedFor, Option.elim_some]⟩

/-- Compiling for the lenient sink differs from compiling for none in the name of the sink. -/
theorem compile_draft (library : Library) (release : Release) (path : String) :
    (library.compile release path (some .draft)).map (fun fragment => { fragment with sink? := none })
      = library.compile release path none := by
  simp only [compile]
  cases library.fragment release path with
  | error error => rfl
  | ok schema =>
    simp only [bind, Except.bind, Option.elim_some, Option.elim_none, Sink.close_draft]
    cases Schema.compile library.retrieve schema <;> rfl

/-- Nothing is compiled exactly when the path leads to no schema. -/
theorem compileDefined_eq_none {sink? : Option Sink} :
    library.compileDefined release path sink? = .ok none ↔
      ∃ other place, library.fragment release path = .error (.pathNotFound other place) := by
  have missing (other : Release) (place : String) :
      library.compile release path sink? = .error (.pathNotFound other place) ↔
        library.fragment release path = .error (.pathNotFound other place) := by
    rw [compile, Except.bind_eq_error, or_iff_left]
    rintro ⟨schema, -, failed⟩
    dsimp only at failed
    split at failed <;> cases failed
  simp only [← missing, compileDefined]
  constructor
  · intro none
    split at none
    · cases none
    · rename_i other place failed
      exact ⟨other, place, failed⟩
    · cases none
  · rintro ⟨other, place, failed⟩
    rw [failed]

end Library

namespace Registry

/-! ### Building kind by kind -/

/-- Compiles a kind for sinks in order, and gives it up at the first sink for which there is nothing
to compile. -/
def compileSinks (library : Library) (release : Release) (kind : Resource) :
    List Sink → Except SetupError (List (Key × Fragment))
  | [] => .ok []
  | sink :: rest => do
    match ← library.compileDefined release kind.path (some sink) with
    | none => return []
    | some fragment =>
      let others ← compileSinks library release kind rest
      return (.resource release kind sink, fragment) :: others

/-- Compiles the kinds of a release one after another, and then its schemas of hash keys. -/
def compileRelease (library : Library) (release : Release) :
    Except SetupError (List (Key × Fragment)) := do
  let kinds ← Resource.all.mapM fun kind => compileSinks library release kind Sink.all
  let hashKeys ← compileKeys library (keyPaths.map fun path => .hashKey release path)
  return kinds.flatten ++ hashKeys

/-- Compiles the documents of a library one after another. -/
def buildByKind (library : Library) : Except SetupError Registry := do
  let tables ← library.releases.mapM (compileRelease library)
  return { library, compiled := tables.flatten }

/-- Keys are compiled one part after the other. -/
theorem compileKeys_append (library : Library) (first second : List Key) :
    compileKeys library (first ++ second) = (do
      let before ← compileKeys library first
      let after ← compileKeys library second
      return before ++ after) := by
  induction first with
  | nil =>
    rw [List.nil_append]
    cases compileKeys library second <;> rfl
  | cons key rest ih =>
    simp only [List.cons_append, compileKeys, ih, bind_assoc, pure_bind]
    congr 1
    funext fragment?
    cases fragment? <;> rfl

/-- The keys of several things are compiled thing by thing. -/
theorem compileKeys_flatMap {α : Type} (library : Library) (keys : α → List Key) (items : List α) :
    compileKeys library (items.flatMap keys) = (do
      let tables ← items.mapM fun item => compileKeys library (keys item)
      return tables.flatten) := by
  induction items with
  | nil => rfl
  | cons item rest ih =>
    simp only [List.flatMap_cons, compileKeys_append, ih, List.mapM_cons, bind_assoc, pure_bind,
      List.flatten_cons]

/-- A kind without a schema has nothing in the table, whatever the sinks. -/
theorem compileKeys_of_undefined {library : Library} {release : Release} {kind : Resource}
    {sink? : Option Sink}
    (undefined : library.compileDefined release kind.path sink? = .ok none) (sinks : List Sink) :
    compileKeys library (sinks.map fun sink => .resource release kind sink) = .ok [] := by
  have every (sink : Sink) : library.compileDefined release kind.path (some sink) = .ok none :=
    Library.compileDefined_eq_none.2 (Library.compileDefined_eq_none.1 undefined)
  induction sinks with
  | nil => rfl
  | cons sink rest ih =>
    simp only [List.map_cons, compileKeys, compileKey, every, ih]
    rfl

/-- Giving a kind up at the first sink without a schema loses nothing. -/
theorem compileSinks_eq (library : Library) (release : Release) (kind : Resource)
    (sinks : List Sink) : compileSinks library release kind sinks =
      compileKeys library (sinks.map fun sink => .resource release kind sink) := by
  induction sinks with
  | nil => rfl
  | cons sink rest ih =>
    rw [List.map_cons, compileSinks, compileKeys, compileKey]
    cases defined : library.compileDefined release kind.path (some sink) with
    | error error => rfl
    | ok fragment? =>
      cases fragment? with
      | none =>
        rw [compileKeys_of_undefined defined]
        rfl
      | some fragment =>
        rw [ih]
        rfl

/-- Building kind by kind builds the same registry. -/
theorem buildByKind_eq (library : Library) : buildByKind library = build library := by
  have each (release : Release) :
      compileRelease library release = compileKeys library (keysOf release) := by
    rw [compileRelease, keysOf, compileKeys_append, compileKeys_flatMap]
    simp only [compileSinks_eq, bind_assoc, pure_bind]
  rw [buildByKind, build, compileKeys_flatMap]
  simp only [funext each, bind_assoc, pure_bind]

/-! ### Answers -/

/-- A registry answers as its library would without a table. -/
structure IsTransparent (registry : Registry) (library : Library) : Prop where
  resolve : ∀ release kind path sink,
    registry.resolve release kind path sink = library.compile release path (some sink)
  kindless : ∀ release first second path sink,
    registry.resolve release first path sink = registry.resolve release second path sink
  resolveFragment : ∀ release path,
    registry.resolveFragment release path = library.compile release path none
  draft : ∀ release kind path,
    (registry.resolve release kind path .draft).map (fun fragment => { fragment with sink? := none })
      = registry.resolveFragment release path
  selected : ∀ release kind path sink fragment,
    registry.resolve release kind path sink = .ok fragment →
      fragment.release = release ∧ fragment.path = path ∧ fragment.sink? = some sink
  shown : ∀ release kind path sink fragment,
    registry.resolve release kind path sink = .ok fragment →
      ∃ schema, library.fragment release path = .ok schema ∧ fragment.Shows sink schema

/-- A registry that is built is the one that is built kind by kind, and it is transparent. -/
theorem table_is_invisible {library : Library} {registry : Registry}
    (built : build library = .ok registry) :
    buildByKind library = .ok registry ∧ registry.IsTransparent library := by
  have resolved := resolve_of_build built
  refine ⟨(buildByKind_eq library).trans built, resolved, ?_, resolveFragment_of_build built, ?_,
    ?_, ?_⟩
  · intro release first second path sink
    rw [resolved, resolved]
  · intro release kind path
    rw [resolved, resolveFragment_of_build built, Library.compile_draft]
  · intro release kind path sink fragment found
    rw [resolved] at found
    obtain ⟨version, place, sink, -⟩ := Library.fragment_of_compile found
    exact ⟨version, place, sink⟩
  · intro release kind path sink fragment found
    rw [resolved] at found
    exact Library.shows_of_compile found

/-- The packaged registry is transparent. -/
theorem packaged_table_is_invisible : ∃ registry, build Library.packaged = .ok registry ∧
    buildByKind Library.packaged = .ok registry ∧ registry.IsTransparent Library.packaged := by
  obtain ⟨registry, built⟩ := Packaged.exists_build
  exact ⟨registry, built, table_is_invisible built⟩

end Registry

end GatewayCheck
