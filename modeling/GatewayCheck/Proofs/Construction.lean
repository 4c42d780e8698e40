import GatewayCheck.Proofs.Registry
import GatewayCheck.Proofs.Rule.Setting

/-!
Building a registry. The schemas of all kinds and of hash keys are compiled in a fixed order, so a
registry cannot be built when one of them has a defect, and the first defect is reported. Of a
registry that is built no answer for a kind at its own path is a defect.
-/
namespace GatewayCheck

namespace Registry

namespace Key

/-- The release of a key. -/
def release : Key → Release
  | resource release _ _ | hashKey release _ => release

/-- The path of the part that a key stands for. -/
def path : Key → String
  | resource _ kind _ => kind.path
  | hashKey _ path => path

/-- The sink for which the part of a key is compiled. -/
def sink? : Key → Option Sink
  | resource _ _ sink => some sink
  | hashKey _ _ => none

/-- A key of a kind, or of one of the two schemas of hash keys. -/
def IsKnown : Key → Prop
  | resource _ _ _ => True
  | hashKey _ path => path ∈ keyPaths

/-- The part of a key has a defect. -/
def HasDefect (library : Library) (key : Key) (defect : Schema.Defect) : Prop :=
  library.HasDefect key.release key.path key.sink? defect

/-- The order in which parts are compiled: older releases first; in a release the kinds in their
order, each for the strict sink before the lenient one, and then the schemas of hash keys. -/
inductive Precedes : Key → Key → Prop
  | release {first second : Key} (older : first.release.rank < second.release.rank) :
    Precedes first second
  | kind {release : Release} {first second : Resource} {sink other : Sink}
    (before : Resource.all.idxOf first < Resource.all.idxOf second) :
    Precedes (.resource release first sink) (.resource release second other)
  | sink {release : Release} {kind : Resource} :
    Precedes (.resource release kind .runtime) (.resource release kind .draft)
  | hashKeys {release : Release} {kind : Resource} {sink : Sink} {path : String} :
    Precedes (.resource release kind sink) (.hashKey release path)
  | headers {release : Release} {first second : String} (named : first = variableKeyPath)
    (sent : second = headerKeyPath) : Precedes (.hashKey release first) (.hashKey release second)

/-- No two keys precede each other. -/
theorem Precedes.asymm {first second : Key} (before : first.Precedes second) :
    ¬ second.Precedes first := by
  have paths : variableKeyPath ≠ headerKeyPath := by decide
  intro after
  cases before with
  | release older =>
    cases after with
    | release newer => omega
    | kind | sink | hashKeys | headers => simp only [Key.release] at older; omega
  | kind before =>
    cases after with
    | release newer => simp only [Key.release] at newer; omega
    | kind after => omega
    | sink => omega
  | sink =>
    cases after with
    | release newer => simp only [Key.release] at newer; omega
    | kind after => omega
  | hashKeys =>
    cases after with
    | release newer => simp only [Key.release] at newer; omega
  | headers named sent =>
    cases after with
    | release newer => simp only [Key.release] at newer; omega
    | headers again => exact absurd (again.symm.trans sent) paths

end Key

/-- The keys of a release are compiled in their order. -/
theorem keysOf_sorted (release : Release) : (keysOf release).Pairwise Key.Precedes := by
  have kinds : Resource.all.Pairwise fun first second =>
      Resource.all.idxOf first < Resource.all.idxOf second := by decide
  refine List.pairwise_append.2 ⟨List.pairwise_flatMap.2 ⟨fun kind _ => ?_, ?_⟩, ?_, ?_⟩
  · exact List.pairwise_cons.2 ⟨fun key listed => List.mem_singleton.1 listed ▸ .sink, by simp⟩
  · refine kinds.imp fun {first second} before key listed other there => ?_
    obtain ⟨sink, -, rfl⟩ := List.mem_map.1 listed
    obtain ⟨sink, -, rfl⟩ := List.mem_map.1 there
    exact .kind before
  · exact List.pairwise_cons.2
      ⟨fun key listed => List.mem_singleton.1 listed ▸ .headers rfl rfl, by simp⟩
  · intro key listed other there
    obtain ⟨kind, -, listed⟩ := List.mem_flatMap.1 listed
    obtain ⟨sink, -, rfl⟩ := List.mem_map.1 listed
    obtain ⟨path, -, rfl⟩ := List.mem_map.1 there
    exact .hashKeys

/-- The keys of a release are those that are known and carry the release. -/
theorem mem_keysOf {release : Release} {key : Key} :
    key ∈ keysOf release ↔ key.release = release ∧ key.IsKnown := by
  constructor
  · have known : ∀ key ∈ keysOf release, key.release = release ∧ key.IsKnown :=
      forall_mem_keysOf.2 ⟨fun _ _ => ⟨rfl, trivial⟩, fun _ listed => ⟨rfl, listed⟩⟩
    exact known key
  · rintro ⟨rfl, known⟩
    have each := (@forall_mem_keysOf key.release (· ∈ keysOf key.release)).1 fun _ listed => listed
    cases key with
    | resource release kind sink => exact each.1 kind sink
    | hashKey release path => exact each.2 path known

/-- The keys of a library are those that are known and carry one of its releases. -/
theorem mem_keys {library : Library} {key : Key} :
    key ∈ library.releases.flatMap keysOf ↔ key.release ∈ library.releases ∧ key.IsKnown := by
  rw [List.mem_flatMap]
  constructor
  · rintro ⟨release, contained, listed⟩
    obtain ⟨rfl, known⟩ := mem_keysOf.1 listed
    exact ⟨contained, known⟩
  · rintro ⟨contained, known⟩
    exact ⟨key.release, contained, mem_keysOf.2 ⟨rfl, known⟩⟩

/-- The keys of a library are compiled in their order. -/
theorem keys_sorted (library : Library) :
    (library.releases.flatMap keysOf).Pairwise Key.Precedes := by
  refine List.pairwise_flatMap.2 ⟨fun release _ => keysOf_sorted release, ?_⟩
  refine library.releases_ascending.imp fun {older newer} before key listed other there =>
    .release ?_
  rwa [(mem_keysOf.1 listed).1, (mem_keysOf.1 there).1]

/-! ### The first defect -/

/-- The part of a key is compiled as the library compiles it. -/
theorem compileKey_eq (library : Library) (key : Key) :
    compileKey library key = library.compileDefined key.release key.path key.sink? := by
  cases key <;> rfl

/-- Keys in order fail to compile for the first of them that does. -/
theorem compileKeys_eq_error {library : Library} {keys : List Key} {error : SetupError}
    (sorted : keys.Pairwise Key.Precedes) :
    compileKeys library keys = .error error ↔
      ∃ key ∈ keys, compileKey library key = .error error ∧
        ∀ earlier ∈ keys, earlier.Precedes key →
          ∃ fragment?, compileKey library earlier = .ok fragment? := by
  rw [compileKeys_eq_mapM, Except.map_eq_error,
    Except.mapM_eq_error_of_sorted Key.Precedes.asymm (sorted.imp .inr)]
  simp only [compileEntry, Except.map_eq_error, Except.map_isOk]

/-- A known key with a defect before which no known key has one. -/
structure IsFirstDefect (library : Library) (key : Key) (defect : Schema.Defect) : Prop where
  known : key.IsKnown
  has : key.HasDefect library defect
  first : ∀ earlier : Key, earlier.IsKnown → earlier.Precedes key →
    ∀ other, ¬ earlier.HasDefect library other

/-- A defect is one of a release that has a document. -/
theorem Key.HasDefect.contained {library : Library} {key : Key} {defect : Schema.Defect}
    (has : key.HasDefect library defect) : key.release ∈ library.releases := by
  obtain ⟨schema, found, -⟩ := has
  obtain ⟨document, held, -⟩ := Library.fragment_eq_ok.1 found
  exact Library.mem_releases.2 ⟨document, held⟩

/-- Building fails for the first defect. -/
theorem build_eq_error {library : Library} {error : SetupError} :
    build library = .error error ↔ ∃ key defect, IsFirstDefect library key defect ∧
      error = .notCompiled key.release key.path defect := by
  have keys : build library = .error error ↔
      compileKeys library (library.releases.flatMap keysOf) = .error error := by
    simp [build, Except.bind_eq_error, pure, Except.pure]
  rw [keys, compileKeys_eq_error (keys_sorted library)]
  simp only [mem_keys, compileKey_eq]
  constructor
  · rintro ⟨key, ⟨contained, known⟩, failed, each⟩
    obtain ⟨defect, has, same⟩ := (Library.compileDefined_eq_error contained).1 failed
    refine ⟨key, defect, ⟨known, has, fun earlier listed ahead other broken => ?_⟩, same⟩
    have ready := each earlier ⟨broken.contained, listed⟩ ahead
    exact (Library.compileDefined_isOk broken.contained).1 ready other broken
  · rintro ⟨key, defect, ⟨known, has, first⟩, same⟩
    refine ⟨key, ⟨has.contained, known⟩,
      (Library.compileDefined_eq_error has.contained).2 ⟨defect, has, same⟩,
      fun earlier listed ahead => ?_⟩
    exact (Library.compileDefined_isOk listed.1).2 (first earlier listed.2 ahead)

/-- In a library over which a registry is built, no known key has a defect. -/
theorem not_hasDefect_of_build {library : Library} {registry : Registry}
    (built : build library = .ok registry) {key : Key} (known : key.IsKnown)
    (defect : Schema.Defect) : ¬ key.HasDefect library defect := by
  intro has
  obtain ⟨compiled, done, -⟩ := Except.bind_eq_ok.1 built
  have ready := compileKeys_isOk.1 ⟨compiled, done⟩ key (mem_keys.2 ⟨has.contained, known⟩)
  rw [compileKey_eq] at ready
  exact (Library.compileDefined_isOk has.contained).1 ready defect has

/-- Building fails exactly when some known key has a defect. -/
theorem build_isError {library : Library} : (∃ error, build library = .error error) ↔
    ∃ key : Key, key.IsKnown ∧ ∃ defect, key.HasDefect library defect := by
  constructor
  · rintro ⟨error, failed⟩
    obtain ⟨key, defect, own, -⟩ := build_eq_error.1 failed
    exact ⟨key, own.known, defect, own.has⟩
  · rintro ⟨key, known, defect, has⟩
    cases built : build library with
    | error error => exact ⟨error, rfl⟩
    | ok registry => exact absurd has (not_hasDefect_of_build built known defect)

/-! ### After construction -/

/-- In a library over which a registry is built, a known key compiles unless its part is missing. -/
theorem compile_eq_error_of_build {library : Library} {registry : Registry}
    (built : build library = .ok registry) {key : Key} (known : key.IsKnown) {error : SetupError} :
    library.compile key.release key.path key.sink? = .error error ↔
      library.fragment key.release key.path = .error error := by
  rw [Library.compile_eq_error, or_iff_left]
  rintro ⟨schema, defect, found, failed, -⟩
  exact not_hasDefect_of_build built known defect ⟨schema, found, failed⟩

/-- A registry that never answers with a defect for a kind at its own path: a kind fails to resolve
only where it has no schema, and a check blames the setting only for a schema of hash keys that its
release does not have. -/
structure IsDefectFree (registry : Registry) (library : Library) : Prop where
  resolve : ∀ release kind sink error,
    registry.resolve release kind kind.path sink = .error error ↔
      library.document? release = none ∧ error = .unsupportedRelease release.name ∨
        library.Lacks release kind.path ∧ error = .pathNotFound release kind.path
  internal : ∀ release kind path limit sink checker,
    Checker.make registry release kind path limit sink = .ok checker →
      ∀ document rejection, checker.check document = .error rejection →
        rejection.isInternal = false
  configuration : ∀ release kind path limit sink checker,
    Checker.make registry release kind path limit sink = .ok checker →
      ∀ document rejection, checker.check document = .error rejection →
        rejection.category = .configuration →
          ∃ missing ∈ keyPaths, library.Lacks release missing ∧
            rejection = .setup (.pathNotFound release missing)

/-- A rejection by a checker for a kind is for the document, or for a schema of hash keys that the
release does not have. -/
theorem rejection_of_build {library : Library} {registry : Registry}
    (built : build library = .ok registry) {release : Release} {kind : Resource} {path : String}
    {limit : ReportLimit} {sink : Sink} {checker : Checker}
    (made : Checker.make registry release kind path limit sink = .ok checker)
    {document : Json} {rejection : Rejection}
    (failed : checker.check document = .error rejection) :
    rejection.category = .schema ∨ rejection.category = .semantic ∨
      ∃ path ∈ keyPaths, library.Lacks release path ∧
        rejection = .setup (.pathNotFound release path) := by
  obtain ⟨fragment, resolved, made⟩ := Except.bind_eq_ok.1 made
  obtain rfl := Except.ok.inj made
  have cause := Checker.isFrom_of_check failed
  cases rejection with
  | malformed => cases cause
  | structural => exact .inl rfl
  | semantic => exact .inr (.inl rfl)
  | setup error =>
    obtain ⟨path, listed, unresolved⟩ := cause
    rw [resolveFragment_of_build built] at unresolved
    have known : (Key.hashKey release path).IsKnown := listed
    have missing : library.fragment release path = .error error :=
      (compile_eq_error_of_build built known).1 unresolved
    rcases Library.fragment_eq_error.1 missing with ⟨absent, -⟩ | ⟨lacks, rfl⟩
    · rw [resolve_of_build built] at resolved
      obtain ⟨schema, -, found, -⟩ := Library.compile_eq_ok.1 resolved
      obtain ⟨document, held, -⟩ := Library.fragment_eq_ok.1 found
      rw [held] at absent
      cases absent
    · exact .inr (.inr ⟨path, listed, lacks, rfl⟩)

/-- A registry cannot be built exactly when a part that it compiles has a defect, and then the first
defect is reported; a registry that is built never answers with a defect later. -/
theorem defects_surface_at_construction (library : Library) :
    ((∃ error, build library = .error error) ↔
        ∃ key : Key, key.IsKnown ∧ ∃ defect, key.HasDefect library defect) ∧
      (∀ error, build library = .error error ↔ ∃ key defect, IsFirstDefect library key defect ∧
        error = .notCompiled key.release key.path defect) ∧
      ∀ registry, build library = .ok registry → registry.IsDefectFree library := by
  refine ⟨build_isError, fun error => build_eq_error, fun registry built => ⟨?_, ?_, ?_⟩⟩
  · intro release kind sink error
    have known : (Key.resource release kind sink).IsKnown := trivial
    rw [resolve_of_build built, ← Library.fragment_eq_error]
    exact compile_eq_error_of_build built known
  · intro release kind path limit sink checker made document rejection failed
    rcases rejection_of_build built made failed with schema | semantic | ⟨path, -, -, rfl⟩
    · rw [Rejection.isInternal, schema]
      rfl
    · rw [Rejection.isInternal, semantic]
      rfl
    · rfl
  · intro release kind path limit sink checker made document rejection failed configured
    rcases rejection_of_build built made failed with schema | semantic | missing
    · rw [schema] at configured
      cases configured
    · rw [semantic] at configured
      cases configured
    · exact missing

end Registry

end GatewayCheck
