import GatewayCheck.Text.Pieces
import Mathlib.Data.String.Basic

/-!
Pieces of texts. A text is its pieces with separators between them, no piece holds a separator, and
pieces without separators are those of the text that they make up.
-/
namespace GatewayCheck.Text

/-! ### Characters -/

/-- There is always a piece. -/
theorem pieces_ne_nil (separator : Char) (characters : List Char) :
    pieces separator characters ≠ [] := by
  cases characters with
  | nil => simp [pieces]
  | cons first rest =>
    rw [pieces]
    split
    · simp
    · split <;> simp

/-- The pieces with separators between them are the whole. -/
theorem intercalate_pieces (separator : Char) (characters : List Char) :
    List.intercalate [separator] (pieces separator characters) = characters := by
  induction characters with
  | nil => rfl
  | cons first rest ih =>
    obtain ⟨piece, others, split⟩ := List.exists_cons_of_ne_nil (pieces_ne_nil separator rest)
    rw [split] at ih
    rw [pieces, split]
    by_cases same : first = separator
    · rw [if_pos same, List.intercalate_cons_cons, ih, same]
      rfl
    · rw [if_neg same]
      cases others with
      | nil => simp [← ih]
      | cons next more =>
        rw [List.intercalate_cons_cons] at ih ⊢
        rw [← ih]
        rfl

/-- The pieces of two texts with a separator between them are those of each. -/
theorem pieces_append (separator : Char) (first second : List Char) :
    pieces separator (first ++ separator :: second) =
      pieces separator first ++ pieces separator second := by
  induction first with
  | nil => simp [pieces]
  | cons character rest ih =>
    rw [List.cons_append, pieces, pieces, ih]
    split
    · rfl
    · obtain ⟨piece, others, split⟩ := List.exists_cons_of_ne_nil (pieces_ne_nil separator rest)
      rw [split]
      rfl

/-- A text without a separator is one piece. -/
theorem pieces_of_not_mem {separator : Char} {characters : List Char}
    (absent : separator ∉ characters) : pieces separator characters = [characters] := by
  induction characters with
  | nil => rfl
  | cons character rest ih =>
    rw [List.mem_cons, not_or] at absent
    rw [pieces, if_neg (Ne.symm absent.1), ih absent.2]

/-- No piece holds a separator. -/
theorem not_mem_of_mem_pieces {separator : Char} {characters : List Char} :
    ∀ piece ∈ pieces separator characters, separator ∉ piece := by
  induction characters with
  | nil => simp [pieces]
  | cons character rest ih =>
    obtain ⟨piece, others, split⟩ := List.exists_cons_of_ne_nil (pieces_ne_nil separator rest)
    rw [split, List.forall_mem_cons] at ih
    rw [pieces, split]
    by_cases same : character = separator
    · rw [if_pos same, List.forall_mem_cons, List.forall_mem_cons]
      exact ⟨List.not_mem_nil, ih⟩
    · rw [if_neg same, List.forall_mem_cons, List.mem_cons, not_or]
      exact ⟨⟨Ne.symm same, ih.1⟩, ih.2⟩

/-- Parts without separators are the pieces of what they make up. -/
theorem pieces_intercalate {separator : Char} {parts : List (List Char)} (present : parts ≠ [])
    (free : ∀ part ∈ parts, separator ∉ part) :
    pieces separator (List.intercalate [separator] parts) = parts := by
  induction parts with
  | nil => exact absurd rfl present
  | cons part rest ih =>
    obtain ⟨own, others⟩ := List.forall_mem_cons.1 free
    cases rest with
    | nil => rw [List.intercalate_singleton, pieces_of_not_mem own]
    | cons next more =>
      rw [List.intercalate_cons_cons, List.append_assoc, List.singleton_append, pieces_append,
        pieces_of_not_mem own, ih (List.cons_ne_nil _ _) others, List.singleton_append]

/-! ### Texts -/

/-- Texts with the same pieces are the same. -/
theorem split_injective {separator : Char} {first second : String}
    (same : split separator first = split separator second) : first = second := by
  have pieces : pieces separator first.toList = pieces separator second.toList :=
    (List.map_inj_right fun _ _ => String.ofList_inj.1).1 same
  apply String.toList_injective
  rw [← intercalate_pieces separator first.toList, pieces, intercalate_pieces]

/-- Texts are the pieces of another exactly when there are some, none of them holds a separator and
they make it up. -/
theorem split_eq_iff {separator : Char} {text : String} {parts : List String} :
    split separator text = parts ↔ parts ≠ [] ∧ (∀ part ∈ parts, separator ∉ part.toList) ∧
      text = String.intercalate (String.singleton separator) parts := by
  have mark : (String.singleton separator).toList = [separator] := String.toList_singleton _
  constructor
  · rintro rfl
    refine ⟨?_, ?_, ?_⟩
    · rw [split, Ne, List.map_eq_nil_iff]
      exact pieces_ne_nil separator text.toList
    · intro part listed
      obtain ⟨piece, inside, rfl⟩ := List.mem_map.1 listed
      rw [String.toList_ofList]
      exact not_mem_of_mem_pieces piece inside
    · have read : String.toList ∘ String.ofList = id := funext fun _ => String.toList_ofList
      rw [← String.toList_inj, String.toList_intercalate, mark, split, List.map_map, read,
        List.map_id, intercalate_pieces]
  · rintro ⟨present, free, rfl⟩
    have written : String.ofList ∘ String.toList = id := funext fun _ => String.ofList_toList
    have free : ∀ part ∈ parts.map String.toList, separator ∉ part := by
      simpa only [List.forall_mem_map] using free
    rw [split, String.toList_intercalate, mark,
      pieces_intercalate (mt List.map_eq_nil_iff.1 present) free, List.map_map, written,
      List.map_id]

end GatewayCheck.Text
