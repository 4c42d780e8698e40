import GatewayCheck.Proofs.Directory
import GatewayCheck.Proofs.Library
import GatewayCheck.Proofs.Program
import GatewayCheck.Proofs.Packaged.Registry

/-!
Loading a library from a directory. What is loaded depends on nothing but what the directory holds
under the names of the files of releases: it is the library of the documents there, or else the
first of these files that holds no document is reported.
-/
namespace GatewayCheck

namespace Library

variable {files : FileAccess Id} {directory : String} {held : String → Option FileTree}
  {release : Release} {entry : FileTree}

/-- The document of a release, loaded and kept beside the release. -/
def loadEntry (files : FileAccess Id) (directory : String) (release : Release) :
    Except SetupError (Release × Json) :=
  (loadFile files directory release).run.map (release, ·)

/-- The documents of releases are loaded one after another. -/
theorem loadFiles_eq_mapM (files : FileAccess Id) (directory : String) (releases : List Release) :
    (loadFiles files directory releases).run = releases.mapM (loadEntry files directory) := by
  induction releases with
  | nil => rfl
  | cons release rest ih =>
    rw [List.mapM_cons, ← ih, loadEntry, loadFiles, Id.run_bind]
    cases (loadFile files directory release).run with
    | error error => rfl
    | ok document =>
      change (loadFiles files directory rest).run.map ((release, document) :: ·) = _
      cases (loadFiles files directory rest).run <;> rfl

/-- Where a file is shown, what is loaded from it is its document. -/
theorem loadFile_of_shows (shown : files.Shows directory held)
    (found : held release.fileName = some entry) :
    (loadFile files directory release).run =
      entry.document.mapError (.notLoaded (inDirectory directory release.fileName)) := by
  rw [FileTree.document, ← shown.read _ _ release.isName_fileName found]
  rfl

/-- An entry is loaded with the document that it holds. -/
theorem loadEntry_eq_ok (shown : files.Shows directory held)
    (found : held release.fileName = some entry) {loaded : Release × Json} :
    loadEntry files directory release = .ok loaded ↔
      ∃ document, entry.Holds document ∧ (release, document) = loaded := by
  simp only [loadEntry, loadFile_of_shows shown found, Except.map_eq_ok, Except.mapError_eq_ok,
    FileTree.document_eq_ok]

/-- An entry cannot be loaded for the reason that spoils it. -/
theorem loadEntry_eq_error (shown : files.Shows directory held)
    (found : held release.fileName = some entry) {error : SetupError} :
    loadEntry files directory release = .error error ↔
      ∃ failure, entry.Spoils failure ∧
        .notLoaded (inDirectory directory release.fileName) failure = error := by
  simp only [loadEntry, loadFile_of_shows shown found, Except.map_eq_error,
    Except.mapError_eq_error, FileTree.document_eq_error]

/-- What is loaded from a directory are the entries of the releases whose files it holds, in the
byte order of their names. -/
theorem load_of_shows (shown : files.Shows directory held) : ∃ present : List Release,
    (∀ release : Release, release ∈ present ↔ ∃ entry, held release.fileName = some entry) ∧
      (present.Pairwise fun first second => first = second ∨
        Text.encode first.fileName < Text.encode second.fileName) ∧
      (load files directory).run =
        (present.mapM (loadEntry files directory)).map ofDocuments := by
  obtain ⟨names, listed, each⟩ := shown.listed
  refine ⟨(Text.inByteOrder names).filterMap Release.ofFileName?, fun release => ?_, ?_, ?_⟩
  · rw [List.mem_filterMap, ← Option.isSome_iff_exists, ← each]
    simp only [Text.mem_inByteOrder, Release.ofFileName?_eq_some]
    simp
  · refine (Text.inByteOrder_sorted names).filterMap Release.ofFileName? ?_
    intro name other before first own second same
    obtain rfl := Release.ofFileName?_eq_some.1 own
    obtain rfl := Release.ofFileName?_eq_some.1 same
    by_cases equal : first = second
    · exact .inl equal
    · refine .inr (List.not_le.1 fun after => equal ?_)
      exact Release.encode_fileName_inj (List.le_antisymm before after)
  · rw [load, Id.run_bind, listed, ← loadFiles_eq_mapM]
    rfl

/-! ### What is loaded -/

/-- The documents are exactly those in the files of releases. -/
structure AreHeld (inFile : Release → Option FileTree) (documents : List (Release × Json)) :
    Prop where
  each : ∀ release entry, inFile release = some entry → ∃ document, (release, document) ∈ documents
  only : ∀ release document, (release, document) ∈ documents →
    ∃ entry, inFile release = some entry ∧ entry.Holds document

/-- The file of a release holds no document, and the files of releases whose names come before it in
byte order do. -/
structure IsFirstSpoiled (inFile : Release → Option FileTree) (release : Release)
    (failure : LoadFailure) : Prop where
  spoiled : ∃ entry, inFile release = some entry ∧ entry.Spoils failure
  first : ∀ other : Release, Text.encode other.fileName < Text.encode release.fileName →
    ∀ entry, inFile other = some entry → ∃ document, entry.Holds document

section Documents

variable {inFile : Release → Option FileTree} {documents : List (Release × Json)}

/-- The file of a release holds the document that is kept for it. -/
theorem AreHeld.exists_holds (are : AreHeld inFile documents)
    (found : inFile release = some entry) :
    ∃ document, (release, document) ∈ documents ∧ entry.Holds document := by
  obtain ⟨document, kept⟩ := are.each release entry found
  obtain ⟨_, same, holds⟩ := are.only release document kept
  obtain rfl := Option.some.inj (found.symm.trans same)
  exact ⟨document, kept, holds⟩

/-- The library of the documents in a directory has for a release the one in its file. -/
theorem AreHeld.document? (are : AreHeld inFile documents) {document : Json} :
    (ofDocuments documents).document? release = some document ↔
      ∃ entry, inFile release = some entry ∧ entry.Holds document := by
  have own {document : Json}
      (found : (ofDocuments documents).document? release = some document) :
      ∃ entry, inFile release = some entry ∧ entry.Holds document :=
    are.only release document (List.mem_reverse.1 (Entries.mem_of_lookup found))
  refine ⟨own, ?_⟩
  rintro ⟨entry, found, holds⟩
  obtain ⟨other, listed, -⟩ := are.exists_holds found
  have present : ((ofDocuments documents).document? release).isSome :=
    Entries.lookup_isSome_iff.2 (List.mem_map.2 ⟨_, List.mem_reverse.2 listed, rfl⟩)
  obtain ⟨value, here⟩ := Option.isSome_iff_exists.1 present
  obtain ⟨_, same, again⟩ := own here
  obtain rfl := Option.some.inj (found.symm.trans same)
  rw [here, again.unique holds]

/-- All documents in a directory make one library. -/
theorem AreHeld.ofDocuments_eq (are : AreHeld inFile documents)
    {others : List (Release × Json)} (also : AreHeld inFile others) :
    ofDocuments documents = ofDocuments others := by
  refine congrArg Library.mk (funext fun release => Option.ext fun document => ?_)
  exact are.document?.trans also.document?.symm

end Documents

/-- What is loaded for the releases in a directory are the documents there. -/
theorem areHeld_of_mapM (shown : files.Shows directory held) {present : List Release}
    (listed : ∀ release : Release,
      release ∈ present ↔ ∃ entry, held release.fileName = some entry)
    {documents : List (Release × Json)}
    (done : present.mapM (loadEntry files directory) = .ok documents) :
    AreHeld (held ∘ Release.fileName) documents where
  each release entry found := by
    have there := (listed release).2 ⟨entry, found⟩
    obtain ⟨loaded, own⟩ := Except.mapM_isOk.1 ⟨documents, done⟩ release there
    obtain ⟨document, -, rfl⟩ := (loadEntry_eq_ok shown found).1 own
    exact ⟨document, (Except.mem_mapM done).2 ⟨release, there, own⟩⟩
  only release document kept := by
    obtain ⟨own, there, loaded⟩ := (Except.mem_mapM done).1 kept
    obtain ⟨entry, found⟩ := (listed own).1 there
    obtain ⟨_, holds, same⟩ := (loadEntry_eq_ok shown found).1 loaded
    obtain ⟨rfl, rfl⟩ := Prod.mk.inj same
    exact ⟨entry, found, holds⟩

/-- Loading succeeds with the library of the documents in the directory. -/
theorem load_eq_ok (shown : files.Shows directory held) {library : Library} :
    (load files directory).run = .ok library ↔ ∃ documents,
      AreHeld (held ∘ Release.fileName) documents ∧ library = ofDocuments documents := by
  obtain ⟨present, listed, -, loads⟩ := load_of_shows shown
  rw [loads, Except.map_eq_ok]
  constructor
  · rintro ⟨documents, done, rfl⟩
    exact ⟨documents, areHeld_of_mapM shown listed done, rfl⟩
  · rintro ⟨documents, are, rfl⟩
    have each : ∀ release ∈ present, ∃ loaded, loadEntry files directory release = .ok loaded := by
      intro release there
      obtain ⟨entry, found⟩ := (listed release).1 there
      obtain ⟨document, -, holds⟩ := are.exists_holds found
      exact ⟨_, (loadEntry_eq_ok shown found).2 ⟨document, holds, rfl⟩⟩
    obtain ⟨others, done⟩ := Except.mapM_isOk.2 each
    exact ⟨others, done, (areHeld_of_mapM shown listed done).ofDocuments_eq are⟩

/-- Loading fails for the first file of a release that holds no document. -/
theorem load_eq_error (shown : files.Shows directory held) {error : SetupError} :
    (load files directory).run = .error error ↔
      ∃ release failure, IsFirstSpoiled (held ∘ Release.fileName) release failure ∧
        error = .notLoaded (inDirectory directory release.fileName) failure := by
  obtain ⟨present, listed, sorted, loads⟩ := load_of_shows shown
  rw [loads, Except.map_eq_error,
    Except.mapM_eq_error_of_sorted (fun before => List.lt_asymm before) sorted]
  constructor
  · rintro ⟨release, there, failed, each⟩
    obtain ⟨entry, found⟩ := (listed release).1 there
    obtain ⟨failure, spoils, rfl⟩ := (loadEntry_eq_error shown found).1 failed
    refine ⟨release, failure, ⟨⟨entry, found, spoils⟩, fun other before entry held => ?_⟩, rfl⟩
    obtain ⟨loaded, done⟩ := each other ((listed other).2 ⟨entry, held⟩) before
    obtain ⟨document, holds, -⟩ := (loadEntry_eq_ok shown held).1 done
    exact ⟨document, holds⟩
  · rintro ⟨release, failure, ⟨⟨entry, found, spoils⟩, first⟩, rfl⟩
    refine ⟨release, (listed release).2 ⟨entry, found⟩,
      (loadEntry_eq_error shown found).2 ⟨failure, spoils, rfl⟩, fun other there before => ?_⟩
    obtain ⟨entry, held⟩ := (listed other).1 there
    obtain ⟨document, holds⟩ := first other before entry held
    exact ⟨_, (loadEntry_eq_ok shown held).2 ⟨document, holds, rfl⟩⟩

/-- Loading succeeds exactly when every file of a release holds a document. -/
theorem exists_load_iff (shown : files.Shows directory held) :
    (∃ library, (load files directory).run = .ok library) ↔
      ∀ release entry, held (Release.fileName release) = some entry →
        ∃ document, entry.Holds document := by
  constructor
  · rintro ⟨library, loaded⟩ release entry found
    obtain ⟨documents, are, -⟩ := (load_eq_ok shown).1 loaded
    obtain ⟨document, -, holds⟩ := are.exists_holds found
    exact ⟨document, holds⟩
  · intro each
    cases loaded : (load files directory).run with
    | ok library => exact ⟨library, rfl⟩
    | error error =>
      obtain ⟨release, failure, first, -⟩ := (load_eq_error shown).1 loaded
      obtain ⟨entry, found, spoils⟩ := first.spoiled
      obtain ⟨document, holds⟩ := each release entry found
      exact absurd spoils holds.not_spoils

/-- The releases of a loaded library are those whose files the directory holds. -/
theorem mem_releases_of_load (shown : files.Shows directory held) {library : Library}
    (loaded : (load files directory).run = .ok library) :
    release ∈ library.releases ↔ ∃ entry, held release.fileName = some entry := by
  obtain ⟨documents, are, rfl⟩ := (load_eq_ok shown).1 loaded
  rw [mem_releases]
  simp only [are.document?]
  constructor
  · rintro ⟨-, entry, found, -⟩
    exact ⟨entry, found⟩
  · rintro ⟨entry, found⟩
    obtain ⟨document, -, holds⟩ := are.exists_holds found
    exact ⟨document, entry, found, holds⟩

/-- Two directories with the same files of releases load alike, whatever else they hold. -/
theorem load_congr (shown : files.Shows directory held) {others : FileAccess Id}
    {other : String → Option FileTree} (also : others.Shows directory other)
    (same : ∀ release : Release, other release.fileName = held release.fileName) :
    (load others directory).run = (load files directory).run := by
  have alike : other ∘ Release.fileName = held ∘ Release.fileName := funext same
  cases loaded : (load files directory).run with
  | ok library =>
    obtain ⟨documents, are, rfl⟩ := (load_eq_ok shown).1 loaded
    exact (load_eq_ok also).2 ⟨documents, alike ▸ are, rfl⟩
  | error error =>
    obtain ⟨release, failure, first, rfl⟩ := (load_eq_error shown).1 loaded
    exact (load_eq_error also).2 ⟨release, failure, alike ▸ first, rfl⟩

/-- A directory with the packaged documents in the files of their releases loads as the packaged
library. -/
theorem load_packaged (shown : files.Shows directory held)
    (packed : ∀ release, ∃ entry, held (Release.fileName release) = some entry ∧
      entry.Holds (Packaged.document release)) :
    (load files directory).run = .ok packaged := by
  let documents := Release.all.map fun release => (release, Packaged.document release)
  have are : AreHeld (held ∘ Release.fileName) documents := by
    constructor
    · intro release entry found
      exact ⟨_, List.mem_map.2 ⟨release, Release.mem_all release, rfl⟩⟩
    · intro release document kept
      obtain ⟨release, -, same⟩ := List.mem_map.1 kept
      obtain ⟨rfl, rfl⟩ := Prod.mk.inj same
      exact packed release
  refine (load_eq_ok shown).2 ⟨documents, are, ?_⟩
  refine congrArg Library.mk (funext fun release => Option.ext fun document => ?_)
  obtain ⟨entry, found, holds⟩ := packed release
  refine Iff.trans ⟨?_, ?_⟩ are.document?.symm
  · rintro ⟨⟩
    exact ⟨entry, found, holds⟩
  · rintro ⟨_, same, again⟩
    obtain rfl := Option.some.inj (found.symm.trans same)
    rw [holds.unique again]

/-! ### Programs -/

/-- A command line asks for the releases of the library in a directory. -/
structure AsksForReleases (files : FileAccess Id) (environment? : Option String)
    (arguments : List String) (directory : String) : Prop where
  asks : ∃ configPath? choices config settings,
    Invocation.ofTexts? environment? arguments = some (.command configPath? (.versions choices)) ∧
      ExceptT.run (Config.load files configPath?) = .ok config ∧
      config.settings choices = .ok settings ∧ settings.schemaDirectory? = some directory

/-- The registry of a directory is built over the library that is loaded from it. -/
theorem run_registry (files : FileAccess Id) {settings : Settings}
    (chosen : settings.schemaDirectory? = some directory) :
    (settings.registry files).run =
      ((load files directory).run >>= Registry.build).mapError .setup := by
  rw [Settings.registry, chosen]
  change ExceptT.bindCont _ ((load files directory).run.mapError _) = _
  cases (load files directory).run with
  | error error => rfl
  | ok library => rfl

/-- Without a directory, the registry is built over the packaged library. -/
theorem run_registry_packaged (files : FileAccess Id) {settings : Settings}
    (unset : settings.schemaDirectory? = none) :
    (settings.registry files).run = (Registry.build packaged).mapError .setup := by
  rw [Settings.registry, unset]
  exact run_settle .setup (Registry.build packaged)

/-- The releases of the library in a directory are printed, oldest first. -/
theorem run_releases {environment? : Option String} {arguments : List String}
    (line : AsksForReleases files environment? arguments directory) {library : Library}
    (loaded : (load files directory).run = .ok library) {registry : Registry}
    (built : Registry.build library = .ok registry) :
    Ending.ofResult (runProgram files environment? arguments).run =
      ⟨String.join (library.releases.map fun release => release.name ++ "\n"), "", 0⟩ := by
  obtain ⟨configPath?, choices, config, settings, parsed, configured, settled, chosen⟩ := line.asks
  have schemas : (settings.registry files).run = .ok registry := by
    rw [run_registry files chosen]
    exact Except.mapError_eq_ok.2 (Except.bind_eq_ok.2 ⟨library, loaded, built⟩)
  have same : registry.library = library := Registry.library_of_build built
  have printed : (runProgram files environment? arguments).run =
      .ok ⟨library.releases.map Release.name, 0⟩ := by
    rw [runProgram_command parsed configured]
    refine run_bind_eq_ok.2 ⟨settings, run_settle_eq_ok.2 settled,
      run_bind_eq_ok.2 ⟨registry, schemas, ?_⟩⟩
    rw [same]
    rfl
  rw [printed, Ending.ofResult, Outcome.text, List.map_map]
  rfl

/-- The releases of a library are those whose files a directory holds, each once and oldest first,
and in this order they are printed. -/
structure Lists (files : FileAccess Id) (directory : String) (held : String → Option FileTree)
    (library : Library) : Prop where
  each : ∀ release, release ∈ library.releases ↔ ∃ entry, held release.fileName = some entry
  ascending : library.releases.Pairwise fun older newer => older.rank < newer.rank
  printed : ∀ registry, Registry.build library = .ok registry → ∀ environment? arguments,
    AsksForReleases files environment? arguments directory →
      Ending.ofResult (runProgram files environment? arguments).run =
        ⟨String.join (library.releases.map fun release => release.name ++ "\n"), "", 0⟩

/-- A directory acts as the packaged library: it loads as this library, the same registry is built
over it, and settings that choose it have the registry of those that choose none. -/
structure ActsAsPackaged (files : FileAccess Id) (directory : String) : Prop where
  loaded : (load files directory).run = .ok packaged
  built : ∃ registry, Registry.build packaged = .ok registry ∧
    (load files directory).run >>= Registry.build = .ok registry
  chosen : ∀ settings : Settings, settings.schemaDirectory? = some directory →
    (settings.registry files).run =
      ({ settings with schemaDirectory? := none }.registry files).run

/-- A directory with the packaged documents in the files of their releases acts as the packaged
library. -/
theorem actsAsPackaged (shown : files.Shows directory held)
    (packed : ∀ release, ∃ entry, held (Release.fileName release) = some entry ∧
      entry.Holds (Packaged.document release)) : ActsAsPackaged files directory := by
  have loaded := load_packaged shown packed
  obtain ⟨registry, built⟩ := Packaged.exists_build
  refine ⟨loaded, ⟨registry, built, Except.bind_eq_ok.2 ⟨packaged, loaded, built⟩⟩, ?_⟩
  intro settings chosen
  have same : (Except.ok packaged >>= Registry.build) = Registry.build packaged :=
    pure_bind packaged Registry.build
  rw [run_registry files chosen, loaded, same]
  exact (run_registry_packaged files rfl).symm

/-- What is loaded from a directory, in whatever order it is listed, is the library of exactly the
documents in the files of releases, and nothing else in the directory matters. Loading fails when
one of these files holds no document, and then the first of them in byte order is reported. -/
theorem load_directory (shown : files.Shows directory held) :
    ((∃ library, (load files directory).run = .ok library) ↔
        ∀ release entry, held (Release.fileName release) = some entry →
          ∃ document, entry.Holds document) ∧
      (∀ library, (load files directory).run = .ok library ↔
        ∃ documents, AreHeld (held ∘ Release.fileName) documents ∧
          library = ofDocuments documents) ∧
      (∀ library, (load files directory).run = .ok library →
        library.Lists files directory held) ∧
      (∀ error, (load files directory).run = .error error ↔
        ∃ release failure, IsFirstSpoiled (held ∘ Release.fileName) release failure ∧
          error = .notLoaded (inDirectory directory release.fileName) failure) ∧
      (∀ (others : FileAccess Id) other, others.Shows directory other →
        (∀ release : Release, other release.fileName = held release.fileName) →
          (load others directory).run = (load files directory).run) ∧
      ((∀ release, ∃ entry, held (Release.fileName release) = some entry ∧
          entry.Holds (Packaged.document release)) → ActsAsPackaged files directory) := by
  have lists (library : Library) (loaded : (load files directory).run = .ok library) :
      library.Lists files directory held :=
    ⟨fun release => mem_releases_of_load shown loaded, releases_ascending library,
      fun registry built environment? arguments line => run_releases line loaded built⟩
  exact ⟨exists_load_iff shown, fun library => load_eq_ok shown, lists,
    fun error => load_eq_error shown, fun others other also => load_congr shown also,
    actsAsPackaged shown⟩

/-- Entries of a directory with documents of two releases, an empty object and a truth value. A text
and a file of a release that is not known are no documents. -/
def shelved : List (String × FileTree) :=
  [("README.md", .file [0x23]), ("apisix-9.9.json", .file [0x7b]),
    ("apisix-3.2.json", .file [0x7b, 0x7d]), ("apisix-3.11.json", .file [0x74, 0x72, 0x75, 0x65])]

/-- Entries of a directory with two files of releases that hold no document. -/
def torn : List (String × FileTree) :=
  [("apisix-3.2.json", .file [0xff]), ("apisix-3.11.json", .directory shelved)]

/-- Entries of a directory with the packaged documents, each in the file of its release. -/
def printed : List (String × FileTree) :=
  Release.all.map fun release =>
    (release.fileName, .file (Text.encode (Packaged.document release).compact))

/-- Three directories. -/
def archive : FileTree :=
  .directory [("schemas", .directory shelved), ("drafts", .directory torn),
    ("packaged", .directory printed)]

/-- From one directory its two documents are loaded, and from another none: of its files the one of
the newer release is met first. The one with the packaged documents acts as the packaged library. -/
theorem load_archive : (∃ library, (load archive.access "schemas").run = .ok library ∧
      library.releases = [.v3_2, .v3_11]) ∧
    (load archive.access "drafts").run =
      .error (.notLoaded "drafts/apisix-3.11.json" (.file .isDirectory)) ∧
    ActsAsPackaged archive.access "packaged" := by
  have schemas : archive.access.Shows "schemas" fun name => shelved.lookup name :=
    FileTree.shows rfl
  have drafts : archive.access.Shows "drafts" fun name => torn.lookup name :=
    FileTree.shows rfl
  have packaged : archive.access.Shows "packaged" fun name => printed.lookup name :=
    FileTree.shows rfl
  obtain ⟨-, succeeds, -⟩ := load_directory schemas
  obtain ⟨-, -, -, fails, -⟩ := load_directory drafts
  obtain ⟨-, -, -, -, -, acts⟩ := load_directory packaged
  have are : AreHeld ((fun name => shelved.lookup name) ∘ Release.fileName)
      [(.v3_2, .object []), (.v3_11, .bool true)] := by
    constructor
    · intro release entry found
      cases release with
      | v3_2 => exact ⟨_, List.mem_cons_self⟩
      | v3_11 => exact ⟨_, List.mem_cons_of_mem _ List.mem_cons_self⟩
      | v3_3 | v3_13 => cases found
    · intro release document kept
      simp only [List.mem_cons, Prod.mk.injEq, List.not_mem_nil, or_false] at kept
      rcases kept with ⟨rfl, rfl⟩ | ⟨rfl, rfl⟩
      · exact ⟨_, rfl, .file rfl rfl⟩
      · exact ⟨_, rfl, .file rfl rfl⟩
  have none_before (other : Release)
      (before : Text.encode other.fileName < Text.encode (Release.fileName .v3_11)) : False := by
    revert before
    cases other <;> decide +kernel
  have packed (release : Release) : ∃ entry, printed.lookup release.fileName = some entry ∧
      entry.Holds (Packaged.document release) := by
    obtain ⟨regular, shallow⟩ := Packaged.document_isRegular release
    exact ⟨_, by cases release <;> rfl, FileTree.holds_compact regular shallow⟩
  refine ⟨⟨_, (succeeds _).2 ⟨_, are, rfl⟩, rfl⟩,
    (fails _).2 ⟨.v3_11, .file .isDirectory, ⟨⟨_, rfl, .directory⟩, ?_⟩, ?_⟩, acts packed⟩
  · exact fun other before => (none_before other before).elim
  · rfl

end Library

end GatewayCheck
