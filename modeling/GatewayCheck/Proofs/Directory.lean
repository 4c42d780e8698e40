import GatewayCheck.Proofs.Entries
import GatewayCheck.Proofs.Except
import GatewayCheck.Proofs.Files
import GatewayCheck.Proofs.Json.Stable

/-!
Directories of documents. A directory is a map from names to files and directories; a file holds a
document, or else there is a reason why not, and the name of a file tells whether it is the file of
a release.
-/
namespace GatewayCheck

/-! ### Names of files -/

namespace Text

/-- Texts in byte order are sorted. -/
theorem inByteOrder_sorted (texts : List String) :
    (inByteOrder texts).Pairwise fun first second => encode first ≤ encode second := by
  have transitive (first second third : String)
      (below : decide (encode first ≤ encode second) = true)
      (above : decide (encode second ≤ encode third) = true) :
      decide (encode first ≤ encode third) = true :=
    decide_eq_true (List.le_trans (of_decide_eq_true below) (of_decide_eq_true above))
  have total (first second : String) : (decide (encode first ≤ encode second) ||
      decide (encode second ≤ encode first)) = true := by
    simpa using List.le_total (encode first) (encode second)
  exact (List.pairwise_mergeSort transitive total texts).imp of_decide_eq_true

/-- Putting texts in byte order keeps all of them. -/
theorem mem_inByteOrder {text : String} {texts : List String} :
    text ∈ inByteOrder texts ↔ text ∈ texts :=
  List.mem_mergeSort

end Text

namespace Release

variable {release : Release} {name : String}

/-- The release with a name has this name. -/
theorem ofName?_eq_some : ofName? name = some release ↔ name = release.name := by
  constructor
  · intro found
    simpa [eq_comm] using List.find?_some found
  · rintro rfl
    exact ofName?_name release

/-- A file belongs to a release exactly when it has the name of the file of the release. -/
theorem ofFileName?_eq_some : ofFileName? name = some release ↔ name = release.fileName := by
  simp only [ofFileName?, Option.bind_eq_bind, Option.bind_eq_some_iff,
    List.isPrefixOf?_eq_some_iff_append_eq, List.isSuffixOf?_eq_some_iff_append_eq,
    ofName?_eq_some]
  constructor
  · rintro ⟨_, starts, text, rfl, named⟩
    rw [← String.toList_inj, ← starts, fileName, ← named]
    simp
  · rintro rfl
    exact ⟨release.name.toList ++ ".json".toList, by simp [fileName], release.name.toList, rfl,
      by simp⟩

/-- The file of a release has a name that stands for an entry. -/
theorem isName_fileName (release : Release) : FileTree.IsName release.fileName := by
  cases release <;> exact ⟨by decide, by decide, by decide⟩

/-- No two releases have files with names of the same bytes. -/
theorem encode_fileName_inj {first second : Release}
    (same : Text.encode first.fileName = Text.encode second.fileName) : first = second := by
  revert same
  cases first <;> cases second <;> decide +kernel

end Release

/-! ### Documents in files -/

namespace FileTree

/-- An entry holds a document: it is a file, and its content is a text that spells the document. -/
inductive Holds : FileTree → Json → Prop
  | file {content : Bytes} {characters : List Char} {document : Json}
    (isText : Text.decode? content = some characters)
    (spells : Json.ofBytes content = .ok document) : Holds (.file content) document

/-- Why an entry holds no document: it is a directory, no text, or a text that spells nothing. -/
inductive Spoils : FileTree → LoadFailure → Prop
  | directory {entries : List (String × FileTree)} :
    Spoils (.directory entries) (.file .isDirectory)
  | notText {content : Bytes} (isText : Text.decode? content = none) :
    Spoils (.file content) .notText
  | malformed {content : Bytes} {characters : List Char} {error : Json.ReadError}
    (isText : Text.decode? content = some characters)
    (spells : Json.ofBytes content = .error error) : Spoils (.file content) (.malformed error)

/-- The document of an entry. -/
def document (entry : FileTree) : Except LoadFailure Json :=
  entry.content.mapError .file >>= Library.readDocument

variable {entry : FileTree}

/-- The document of a file is what its content is read as. -/
theorem document_file (content : Bytes) :
    (file content).document = Library.readDocument content := rfl

/-- The document of an entry is the one that it holds. -/
theorem document_eq_ok {document : Json} :
    entry.document = .ok document ↔ entry.Holds document := by
  cases entry with
  | directory entries => exact ⟨nofun, nofun⟩
  | file content =>
    rw [document_file, Library.readDocument]
    cases decoded : Text.decode? content with
    | none =>
      refine ⟨nofun, fun holds => ?_⟩
      obtain ⟨isText, -⟩ := holds
      rw [decoded] at isText
      cases isText
    | some characters =>
      rw [Except.mapError_eq_ok]
      exact ⟨fun spells => .file decoded spells, fun ⟨_, spells⟩ => spells⟩

/-- An entry holds at most one document. -/
theorem Holds.unique {first second : Json} (one : entry.Holds first) (other : entry.Holds second) :
    first = second :=
  Except.ok.inj ((document_eq_ok.2 one).symm.trans (document_eq_ok.2 other))

/-- An entry has no document for the reason that spoils it. -/
theorem document_eq_error {failure : LoadFailure} :
    entry.document = .error failure ↔ entry.Spoils failure := by
  cases entry with
  | directory entries =>
    constructor
    · intro failed
      obtain rfl := Except.error.inj failed
      exact .directory
    · rintro ⟨⟩
      rfl
  | file content =>
    rw [document_file, Library.readDocument]
    cases decoded : Text.decode? content with
    | none =>
      constructor
      · intro failed
        obtain rfl := Except.error.inj failed
        exact .notText decoded
      · intro spoils
        cases spoils with
        | notText => rfl
        | malformed isText => rw [decoded] at isText; cases isText
    | some characters =>
      rw [Except.mapError_eq_error]
      constructor
      · rintro ⟨error, failed, rfl⟩
        exact .malformed decoded failed
      · intro spoils
        cases spoils with
        | notText isText => rw [decoded] at isText; cases isText
        | malformed isText failed => exact ⟨_, failed, rfl⟩

/-- An entry that holds a document is not spoiled. -/
theorem Holds.not_spoils {document : Json} (holds : entry.Holds document) {failure : LoadFailure} :
    ¬ entry.Spoils failure := by
  intro spoils
  have done := document_eq_ok.2 holds
  rw [document_eq_error.2 spoils] at done
  cases done

/-- A file with the text of a regular document holds the document. -/
theorem holds_compact {document : Json} (regular : document.isRegular = true)
    (shallow : document.depth ≤ Json.greatestDepth) :
    (file (Text.encode document.compact)).Holds document :=
  .file (Text.decode?_encodeCharacters _) (Json.ofBytes_compact regular shallow)

end FileTree

/-! ### Directories -/

/-- Files show a directory: it is listed, in whatever order, by the names of what it holds, and what
it holds under a name is read at the path of the name. -/
structure FileAccess.Shows (files : FileAccess Id) (directory : String)
    (held : String → Option FileTree) : Prop where
  listed : ∃ names, (files.list directory).run = .ok names ∧
    ∀ name, name ∈ names ↔ (held name).isSome
  read : ∀ name entry, FileTree.IsName name → held name = some entry →
    (files.read (Library.inDirectory directory name)).run = entry.content

/-- A directory in a tree of files is shown with its entries. -/
theorem FileTree.shows {tree : FileTree} {directory : String}
    {entries : List (String × FileTree)} (leads : tree.at? directory = .ok (.directory entries)) :
    tree.access.Shows directory fun name => entries.lookup name where
  listed := by
    refine ⟨entries.map Prod.fst, list_of_at? leads, fun name => ?_⟩
    rw [Entries.lookup_isSome_iff]
  read name entry isName found := read_inDirectory isName leads found

end GatewayCheck
