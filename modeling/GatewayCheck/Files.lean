import GatewayCheck.Text.Pieces
import GatewayCheck.Text.Utf8

/-!
Access to files: reading a file and listing a directory, in any monad, and the same for a tree of
files that is known in full.
-/
namespace GatewayCheck

/-- Why a file cannot be read or a directory cannot be listed. -/
inductive FileError where
  | missing
  | notDirectory
  | isDirectory
  | other (text : String)
  deriving DecidableEq, Repr

/-- The text of a file error. -/
def FileError.message : FileError → String
  | missing => "No such file or directory (os error 2)"
  | notDirectory => "Not a directory (os error 20)"
  | isDirectory => "Is a directory (os error 21)"
  | other text => text

/-- What is asked about files: their content, the names in a directory and, of content that holds no
YAML document, what the reader of YAML says of it, where this is known. -/
structure FileAccess (m : Type → Type) where
  read : String → m (Except FileError Bytes)
  list : String → m (Except FileError (List String))
  complaint? : Bytes → Option String

/-- A directory, by the names of what it holds. -/
inductive FileTree where
  | file (content : Bytes)
  | directory (entries : List (String × FileTree))
  deriving Repr

namespace FileTree

/-- The entries of a directory; a file has none. -/
def entries : FileTree → List (String × FileTree)
  | directory entries => entries
  | file _ => []

/-- The tree with a file or an empty directory put at a path; directories on the way are made. -/
def put (leaf : FileTree) : List String → FileTree → FileTree
  | [], tree =>
    match leaf, tree with
    | directory [], directory entries => directory entries
    | _, _ => leaf
  | name :: rest, tree =>
    let inner := (tree.entries.lookup name).getD (directory [])
    directory ((tree.entries.filter fun entry => entry.1 ≠ name) ++ [(name, put leaf rest inner)])

/-- What names lead to. A single dot stays in place, and two dots lead back to the directory above,
which is the first of the given ones. -/
def find (above : List FileTree) : List String → FileTree → Except FileError FileTree
  | [], tree => .ok tree
  | name :: rest, tree =>
    match tree with
    | file _ => .error .notDirectory
    | directory entries =>
      if name = "." || name = "" then find above rest tree
      else if name = ".." then
        match above with
        | [] => .error .missing
        | outer :: others => find others rest outer
      else
        match entries.lookup name with
        | some inner => find (tree :: above) rest inner
        | none => .error .missing

/-- What a path leads to. The empty path leads nowhere, and neither does one that starts at the root
of all files, or that leaves the tree. -/
def at? (tree : FileTree) (path : String) : Except FileError FileTree :=
  match path.toList with
  | [] | '/' :: _ => .error .missing
  | _ => find [] (Text.split '/' path) tree

/-- The content of a file. -/
def read (tree : FileTree) (path : String) : Except FileError Bytes := do
  match ← tree.at? path with
  | file content => return content
  | directory _ => throw .isDirectory

/-- The names in a directory. -/
def list (tree : FileTree) (path : String) : Except FileError (List String) := do
  match ← tree.at? path with
  | file _ => throw .notDirectory
  | directory entries => return entries.map Prod.fst

/-- Access to the files of a tree, without what the reader of YAML says. -/
def access (tree : FileTree) : FileAccess Id := ⟨tree.read, tree.list, fun _ => none⟩

end FileTree

end GatewayCheck
