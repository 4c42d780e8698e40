import GatewayCheck.Schema.Reference
import GatewayCheck.Proofs.Text.Utf8

/-!
Plain pointers. A pointer of ASCII characters without percent signs stands for its own segments.
-/
namespace GatewayCheck

namespace Json

/-- An ASCII character that is no percent sign. -/
def isPlain (character : Char) : Bool := decide (character.toNat < 0x80) && character != '%'

/-- What it is for a character to be plain. -/
theorem isPlain_iff {character : Char} :
    isPlain character = true ↔ character.toNat < 0x80 ∧ character ≠ '%' := by
  simp [isPlain]

/-- Plain characters stand for themselves. -/
theorem percentDecoded_plain {characters : List Char} (plain : characters.all isPlain = true) :
    percentDecoded characters = Text.encodeCharacters characters := by
  induction characters with
  | nil => rfl
  | cons first rest ih =>
    rw [List.all_cons, Bool.and_eq_true] at plain
    obtain ⟨-, unmarked⟩ := isPlain_iff.1 plain.1
    rw [percentDecoded, ih plain.2, Text.encodeCharacters_cons]
    · rw [Text.encode, String.toList_ofList, Text.encodeCharacters_cons]
      exact congrArg (· ++ Text.encodeCharacters rest) (List.append_nil _)
    · exact fun _ _ _ same => absurd same unmarked

/-- A plain pointer leads from segment to segment. -/
theorem atPlace?_plain {place : String} {pointer : List Char} (json : Json)
    (form : place.toList = '/' :: pointer) (plain : pointer.all isPlain = true) :
    json.atPlace? place =
      (Text.pieces '/' pointer).foldlM (fun value segment => Json.child? segment value) json := by
  rw [atPlace?, form]
  simp only [percentDecoded_plain plain, Text.decode?_encodeCharacters, Option.bind_eq_bind,
    Option.bind_some]

end Json

end GatewayCheck
