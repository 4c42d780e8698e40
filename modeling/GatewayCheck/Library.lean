import GatewayCheck.Packaged.Document
import GatewayCheck.SetupError

/-!
Libraries of schema documents, one document for each release. References lead to a document by its
address: the identifier that it carries, or else the address of its release.
-/
namespace GatewayCheck

/-- The schema documents of some of the releases. -/
structure Library where
  document? : Release → Option Json

namespace Library

/-- The library of the given documents; of two documents for one release the later remains. -/
def ofDocuments (documents : List (Release × Json)) : Library where
  document? release := documents.reverse.lookup release

/-- The library that comes with the program. -/
def packaged : Library where
  document? release := some (Packaged.document release)

/-- A library has a document for a release. -/
def contains (library : Library) (release : Release) : Bool := (library.document? release).isSome

/-- The releases that have documents, oldest first. -/
def releases (library : Library) : List Release := Release.all.filter library.contains

/-- The document for a release. -/
def document (library : Library) (release : Release) : Except SetupError Json :=
  (library.document? release).elim (.error (.unsupportedRelease release.name)) .ok

/-- The identifier that a document carries. -/
def identifier? (document : Json) : Option String := (document.get? "$id").bind Json.asString?

/-- The address of the document of a release. -/
def addressOf (release : Release) (document : Json) : String :=
  (identifier? document).getD release.address

/-- The documents under their addresses, newest first; of two with one address the newer is
found. -/
def addressed (library : Library) : List (String × Json) :=
  Release.all.reverse.filterMap fun release =>
    (library.document? release).map fun document => (addressOf release document, document)

/-- The documents that references lead to. -/
def retrieve (library : Library) : Schema.Documents :=
  fun address => library.addressed.lookup address

/-- The part of the document of a release at a path; only objects and booleans are schemas. -/
def fragment (library : Library) (release : Release) (path : String) : Except SetupError Json := do
  let document ← library.document release
  match document.atPath? path with
  | some (.object members) => return .object members
  | some (.bool value) => return .bool value
  | _ => throw (.pathNotFound release path)

/-- The path of a file in a directory. -/
def inDirectory (directory name : String) : String :=
  if directory.toList.getLast? = some '/' then directory ++ name else directory ++ "/" ++ name

/-- The document that the content of a file holds. -/
def readDocument (content : Bytes) : Except LoadFailure Json :=
  match Text.decode? content with
  | none => .error .notText
  | some _ => (Json.ofBytes content).mapError .malformed

/-- Loads the document of a release from the file with its name. -/
def loadFile {m : Type → Type} [Monad m] (files : FileAccess m) (directory : String)
    (release : Release) : m (Except SetupError Json) := do
  let path := inDirectory directory release.fileName
  let content ← files.read path
  return (content.mapError .file >>= readDocument).mapError (.notLoaded path)

/-- Loads the documents of releases, up to the first that cannot be loaded. -/
def loadFiles {m : Type → Type} [Monad m] (files : FileAccess m) (directory : String) :
    List Release → m (Except SetupError (List (Release × Json)))
  | [] => return .ok []
  | release :: rest => do
    match ← loadFile files directory release with
    | .error error => return .error error
    | .ok document => return (← loadFiles files directory rest).map ((release, document) :: ·)

/-- Loads a library from the files of a directory, in the order of their names. Files with other
names are ignored. -/
def load {m : Type → Type} [Monad m] (files : FileAccess m) (directory : String) :
    m (Except SetupError Library) := do
  match ← files.list directory with
  | .error error => return .error (.notLoaded directory (.file error))
  | .ok names =>
    let present := (Text.inByteOrder names).filterMap Release.ofFileName?
    return (← loadFiles files directory present).map ofDocuments

end Library

end GatewayCheck
