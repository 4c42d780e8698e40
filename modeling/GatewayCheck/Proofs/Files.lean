import GatewayCheck.Library
import GatewayCheck.Proofs.Text.Pieces

/-!
Paths in trees of files. The path of a name in a directory leads to what the directory holds under
the name, and nowhere when it holds nothing under it.
-/
namespace GatewayCheck

namespace FileTree

/-- A name that stands for an entry of a directory. -/
structure IsName (name : String) : Prop where
  unseparated : '/' ∉ name.toList
  filled : name ≠ ""
  onward : name ≠ "." ∧ name ≠ ".."

/-- What a directory holds under a name. -/
def entry (entries : List (String × FileTree)) (name : String) : Except FileError FileTree :=
  (entries.lookup name).elim (.error .missing) .ok

/-- A name that stands for an entry is looked up in the entries. -/
theorem find_singleton {name : String} (isName : IsName name)
    (entries : List (String × FileTree)) (above : List FileTree) :
    find above [name] (directory entries) = entry entries name := by
  simp only [find, isName.onward, isName.filled, entry]
  cases entries.lookup name <;> simp

/-- Behind the way to a directory, with or without a separator at its end, a name is looked up in
its entries. -/
theorem find_name {stay way : List String} (stays : stay = [] ∨ stay = [""]) {name : String}
    (isName : IsName name) {entries : List (String × FileTree)} {above : List FileTree}
    {tree : FileTree} (found : find above (way ++ stay) tree = .ok (directory entries)) :
    find above (way ++ [name]) tree = entry entries name := by
  induction way generalizing above tree with
  | nil =>
    have here : tree = directory entries := by
      rcases stays with rfl | rfl
      · simpa [find] using found
      · cases tree with
        | file => simp [find] at found
        | directory => simpa [find] using found
    rw [here]
    exact find_singleton isName entries above
  | cons step rest ih =>
    cases tree with
    | file => simp [find] at found
    | directory inner =>
      rw [List.cons_append] at found ⊢
      simp only [find] at found ⊢
      by_cases here : (decide (step = ".") || decide (step = "")) = true
      · rw [if_pos here] at found ⊢
        exact ih found
      rw [if_neg here] at found ⊢
      by_cases back : step = ".."
      · rw [if_pos back] at found ⊢
        cases above with
        | nil => cases found
        | cons outer others => exact ih found
      · rw [if_neg back] at found ⊢
        cases held : inner.lookup step with
        | none => rw [held] at found; cases found
        | some tree =>
          rw [held] at found
          exact ih found

/-- A path that starts inside the tree is followed piece by piece. -/
theorem at?_eq_find {tree : FileTree} {path : String} {first : Char} {rest : List Char}
    (starts : path.toList = first :: rest) (inside : first ≠ '/') :
    tree.at? path = find [] (Text.split '/' path) tree := by
  rw [at?, starts]
  split
  · rename_i same; cases same
  · rename_i same; exact absurd (List.cons.inj same).1 inside
  · rfl

/-- A path that leads to something starts inside the tree. -/
theorem starts_of_at? {tree found : FileTree} {path : String} (leads : tree.at? path = .ok found) :
    ∃ first rest, path.toList = first :: rest ∧ first ≠ '/' := by
  rw [at?] at leads
  split at leads
  · cases leads
  · cases leads
  · rename_i filled other
    obtain ⟨first, rest, starts⟩ := List.exists_cons_of_ne_nil filled
    exact ⟨first, rest, starts, fun same => other rest (same ▸ starts)⟩

/-- The pieces of the path of a name lead to the directory and on to the name. -/
theorem split_inDirectory {name : String} (isName : IsName name) (path : String) :
    ∃ stay way, (stay = [] ∨ stay = [""]) ∧ Text.split '/' path = way ++ stay ∧
      Text.split '/' (Library.inDirectory path name) = way ++ [name] := by
  have piece : (Text.pieces '/' name.toList).map String.ofList = [name] := by
    rw [Text.pieces_of_not_mem isName.unseparated]
    simp
  rw [Library.inDirectory]
  split
  · rename_i closed
    obtain ⟨front, ends⟩ := List.getLast?_eq_some_iff.1 closed
    refine ⟨[""], (Text.pieces '/' front).map String.ofList, .inr rfl, ?_, ?_⟩
    · rw [Text.split, ends, Text.pieces_append, List.map_append]
      rfl
    · rw [Text.split, String.toList_append, ends, List.append_assoc, List.singleton_append,
        Text.pieces_append, List.map_append, piece]
  · refine ⟨[], Text.split '/' path, .inl rfl, (List.append_nil _).symm, ?_⟩
    have joined : (path ++ "/" ++ name).toList = path.toList ++ '/' :: name.toList := by simp
    rw [Text.split, joined, Text.pieces_append, List.map_append, piece]
    rfl

/-- In a directory, the path of a name leads to what the directory holds under the name. -/
theorem at?_inDirectory {tree : FileTree} {path name : String} (isName : IsName name)
    {entries : List (String × FileTree)} (leads : tree.at? path = .ok (directory entries)) :
    tree.at? (Library.inDirectory path name) = entry entries name := by
  obtain ⟨first, rest, starts, inside⟩ := starts_of_at? leads
  obtain ⟨stay, way, stays, there, onward⟩ := split_inDirectory isName path
  have begins : ∃ rest, (Library.inDirectory path name).toList = first :: rest := by
    rw [Library.inDirectory]
    split <;> simp [starts]
  obtain ⟨others, begins⟩ := begins
  rw [at?_eq_find starts inside, there] at leads
  rw [at?_eq_find begins inside, onward]
  exact find_name stays isName leads

/-- What reading an entry gives. -/
def content : FileTree → Except FileError Bytes
  | file content => .ok content
  | directory _ => .error .isDirectory

/-- In a directory, what it holds under a name is read at the path of the name. -/
theorem read_inDirectory {tree held : FileTree} {path name : String} (isName : IsName name)
    {entries : List (String × FileTree)} (leads : tree.at? path = .ok (directory entries))
    (found : entries.lookup name = some held) :
    tree.read (Library.inDirectory path name) = held.content := by
  rw [read, at?_inDirectory isName leads, entry, found]
  cases held <;> rfl

/-- The names in a directory are those of its entries. -/
theorem list_of_at? {tree : FileTree} {path : String} {entries : List (String × FileTree)}
    (leads : tree.at? path = .ok (directory entries)) :
    tree.list path = .ok (entries.map Prod.fst) := by
  rw [list, leads]
  rfl

end FileTree

end GatewayCheck
