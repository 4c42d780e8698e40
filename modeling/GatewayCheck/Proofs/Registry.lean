import GatewayCheck.Proofs.Entries
import GatewayCheck.Proofs.Library

/-!
Registries that are built. What is compiled in advance is what compiling at the time of a request
gives, so a registry that is built answers as its library does.
-/
namespace GatewayCheck

namespace Library

variable {library : Library} {release : Release} {path : String} {sink? : Option Sink}
  {fragment : Fragment}

/-- A part that is defined is the part that compiling gives. -/
theorem compile_of_compileDefined
    (defined : library.compileDefined release path sink? = .ok (some fragment)) :
    library.compile release path sink? = .ok fragment := by
  rw [compileDefined] at defined
  split at defined
  · rename_i compiled
    cases defined
    exact compiled
  · cases defined
  · cases defined

/-- A part that compiles is defined. -/
theorem compileDefined_of_compile
    (compiled : library.compile release path sink? = .ok fragment) :
    library.compileDefined release path sink? = .ok (some fragment) := by
  simp only [compileDefined, compiled]

/-- A path that leads nowhere in the document of a release defines no part. -/
theorem compileDefined_of_absent {document : Json}
    (holds : library.document? release = some document) (absent : document.atPath? path = none)
    (sink? : Option Sink) : library.compileDefined release path sink? = .ok none := by
  have lacks : library.Lacks release path := by
    refine ⟨document, holds, fun schema shown => ?_⟩
    rw [Shows, absent] at shown
    cases shown.1
  have failed : library.compile release path sink? = .error (.pathNotFound release path) :=
    compile_eq_error.2 (.inl (fragment_eq_error.2 (.inr ⟨lacks, rfl⟩)))
  simp only [compileDefined, failed]

/-- In a release that has a document, compiling what is defined fails for a defect only. -/
theorem compileDefined_eq_error (contained : release ∈ library.releases) {error : SetupError} :
    library.compileDefined release path sink? = .error error ↔
      ∃ defect, library.HasDefect release path sink? defect ∧
        error = .notCompiled release path defect := by
  obtain ⟨document, held⟩ := mem_releases.1 contained
  cases done : library.compile release path sink? with
  | ok fragment =>
    simp only [compileDefined, done, ← compile_eq_notCompiled]
    simp
  | error cause =>
    rcases compile_eq_error.1 done with failed | ⟨schema, defect, found, failed, rfl⟩
    · rcases fragment_eq_error.1 failed with ⟨absent, -⟩ | ⟨-, rfl⟩
      · rw [held] at absent
        cases absent
      · simp only [compileDefined, done, ← compile_eq_notCompiled]
        simp
    · simp only [compileDefined, done, ← compile_eq_notCompiled]
      simp [eq_comm]

/-- In a release that has a document, a part without a defect compiles if it is defined. -/
theorem compileDefined_isOk (contained : release ∈ library.releases) :
    (∃ fragment?, library.compileDefined release path sink? = .ok fragment?) ↔
      ∀ defect, ¬ library.HasDefect release path sink? defect := by
  cases done : library.compileDefined release path sink? with
  | ok fragment? =>
    refine ⟨fun _ defect has => ?_, fun _ => ⟨fragment?, rfl⟩⟩
    rw [(compileDefined_eq_error contained).2 ⟨defect, has, rfl⟩] at done
    cases done
  | error cause =>
    obtain ⟨defect, has, -⟩ := (compileDefined_eq_error contained).1 done
    constructor
    · rintro ⟨fragment?, same⟩
      cases same
    · exact fun free => absurd has (free defect)

end Library

namespace Registry

section Keys

variable {library : Library} {keys : List Key}

/-- A key with its part, if it stands for one. -/
def compileEntry (library : Library) (key : Key) : Except SetupError (Option (Key × Fragment)) :=
  (compileKey library key).map (Option.map (key, ·))

/-- Keys are compiled one after another, and those that stand for nothing are left out. -/
theorem compileKeys_eq_mapM (library : Library) (keys : List Key) :
    compileKeys library keys = (keys.mapM (compileEntry library)).map (List.filterMap id) := by
  induction keys with
  | nil => rfl
  | cons first rest ih =>
    rw [List.mapM_cons, compileKeys, ih, compileEntry]
    cases compileKey library first with
    | error error => rfl
    | ok fragment? =>
      cases rest.mapM (compileEntry library) with
      | error error => rfl
      | ok others => cases fragment? <;> rfl

/-- What is compiled under a key is what the key stands for. -/
theorem compileKey_of_lookup {compiled : List (Key × Fragment)}
    (done : compileKeys library keys = .ok compiled) {key : Key} {fragment : Fragment}
    (found : compiled.lookup key = some fragment) :
    compileKey library key = .ok (some fragment) := by
  rw [compileKeys_eq_mapM] at done
  obtain ⟨parts, each, rfl⟩ := Except.map_eq_ok.1 done
  obtain ⟨part?, listed, same⟩ := List.mem_filterMap.1 (Entries.mem_of_lookup found)
  obtain rfl : part? = some (key, fragment) := same
  obtain ⟨other, -, own⟩ := (Except.mem_mapM each).1 listed
  obtain ⟨fragment?, compiles, kept⟩ := Except.map_eq_ok.1 own
  obtain ⟨part, rfl, both⟩ := Option.map_eq_some_iff.1 kept
  obtain ⟨rfl, rfl⟩ := Prod.mk.inj both
  exact compiles

/-- Keys compile together exactly when each of them compiles, or stands for nothing. -/
theorem compileKeys_isOk : (∃ compiled, compileKeys library keys = .ok compiled) ↔
    ∀ key ∈ keys, ∃ fragment?, compileKey library key = .ok fragment? := by
  simp only [compileKeys_eq_mapM, Except.map_isOk, Except.mapM_isOk, compileEntry]

end Keys

/-- The keys of a release are those of its kinds, for both sinks, and those of hash keys. -/
theorem forall_mem_keysOf {release : Release} {holds : Key → Prop} :
    (∀ key ∈ keysOf release, holds key) ↔
      (∀ kind sink, holds (.resource release kind sink)) ∧
      ∀ path ∈ keyPaths, holds (.hashKey release path) := by
  have everySink (sink : Sink) : sink ∈ Sink.all := by cases sink <;> decide
  simp only [keysOf, List.mem_append, List.mem_flatMap, List.mem_map]
  constructor
  · exact fun each => ⟨fun kind sink =>
      each _ (.inl ⟨kind, Resource.mem_all kind, sink, everySink sink, rfl⟩),
      fun path listed => each _ (.inr ⟨path, listed, rfl⟩)⟩
  · rintro ⟨kinds, paths⟩ key (⟨kind, -, sink, -, rfl⟩ | ⟨path, listed, rfl⟩)
    · exact kinds kind sink
    · exact paths path listed

/-- A registry can be built exactly when every part that is defined compiles. -/
theorem exists_build_iff {library : Library} :
    (∃ registry, build library = .ok registry) ↔ ∀ release ∈ library.releases,
      (∀ kind : Resource, ∀ sink, ∃ fragment?,
        library.compileDefined release kind.path (some sink) = .ok fragment?) ∧
      ∀ path ∈ keyPaths, ∃ fragment?, library.compileDefined release path none = .ok fragment? := by
  have same : (∃ registry, build library = .ok registry) ↔
      ∃ compiled, compileKeys library (library.releases.flatMap keysOf) = .ok compiled := by
    simp only [build, Except.bind_eq_ok, pure, Except.pure, Except.ok.injEq]
    exact ⟨fun ⟨_, compiled, done, _⟩ => ⟨compiled, done⟩,
      fun ⟨compiled, done⟩ => ⟨_, compiled, done, rfl⟩⟩
  rw [same, compileKeys_isOk]
  simp only [List.forall_mem_flatMap, forall_mem_keysOf, compileKey]

section Built

variable {library : Library} {registry : Registry}

/-- A registry is built from its own library. -/
theorem library_of_build (built : build library = .ok registry) : registry.library = library := by
  obtain ⟨compiled, -, same⟩ := Except.bind_eq_ok.1 built
  rw [← Except.ok.inj same]

/-- What a registry has under a key is what the key stands for. -/
theorem compileKey_of_find? (built : build library = .ok registry) {key : Key}
    {fragment : Fragment} (found : registry.find? key = some fragment) :
    compileKey library key = .ok (some fragment) := by
  obtain ⟨compiled, done, same⟩ := Except.bind_eq_ok.1 built
  rw [← Except.ok.inj same] at found
  exact compileKey_of_lookup done found

/-- A registry resolves a path as its library compiles it. -/
theorem resolve_of_build (built : build library = .ok registry) (release : Release)
    (kind : Resource) (path : String) (sink : Sink) :
    registry.resolve release kind path sink = library.compile release path (some sink) := by
  rw [resolve, library_of_build built]
  split
  · rename_i own
    subst own
    cases found : registry.find? (.resource release kind sink) with
    | none => rfl
    | some fragment =>
      exact (Library.compile_of_compileDefined (compileKey_of_find? built found)).symm
  · rfl

/-- A registry resolves an unchanged part as its library compiles it. -/
theorem resolveFragment_of_build (built : build library = .ok registry) (release : Release)
    (path : String) :
    registry.resolveFragment release path = library.compile release path none := by
  rw [resolveFragment, library_of_build built]
  cases found : registry.find? (.hashKey release path) with
  | none => rfl
  | some fragment =>
    exact (Library.compile_of_compileDefined (compileKey_of_find? built found)).symm

end Built

end Registry

end GatewayCheck
