import GatewayCheck.Json.Shape
import GatewayCheck.Proofs.Files
import GatewayCheck.Proofs.Json.Numerals
import GatewayCheck.Proofs.Json.Parts

/-!
Lines of a text. Quoted texts, numbers and documents on one line hold no line break, whatever texts
they show, while a pointer has the line breaks of its segments.
-/
namespace GatewayCheck

namespace Text

/-- A text holds no line break. -/
def isUnbroken (text : String) : Bool := !text.toList.contains '\n'

/-- The lines of a text, without their line breaks. -/
def linesOf (text : String) : List String := split '\n' text

/-- A text holds no line break when none of its characters is one. -/
theorem isUnbroken_iff {text : String} : isUnbroken text = true ↔ '\n' ∉ text.toList := by
  simp [isUnbroken]

/-- No byte of a text is a line feed. -/
def hasNoFeed (text : String) : Bool := text.toByteArray.data.toList.all (· != 0x0a)

/-- A text without the byte of a line break holds none. -/
theorem isUnbroken_of_hasNoFeed {text : String} (absent : hasNoFeed text = true) :
    isUnbroken text = true := by
  have bytes : text.toByteArray = text.toList.utf8Encode := by
    rw [← String.toByteArray_ofList, String.ofList_toList]
  rw [hasNoFeed, bytes, List.utf8Encode] at absent
  rw [isUnbroken_iff]
  intro inside
  have feed : (0x0a : UInt8) ∈ (text.toList.flatMap String.utf8EncodeChar).toByteArray.data.toList := by
    simpa using ⟨'\n', inside, by decide⟩
  exact absurd (List.all_eq_true.1 absent _ feed) (by decide)

/-- Two texts together hold no line break exactly when neither does. -/
@[simp] theorem isUnbroken_append (first second : String) :
    isUnbroken (first ++ second) = (isUnbroken first && isUnbroken second) := by
  rw [Bool.eq_iff_iff, Bool.and_eq_true, isUnbroken_iff, isUnbroken_iff, isUnbroken_iff,
    String.toList_append, List.mem_append, not_or]

/-- Texts with a separator between them hold no line break when none of them does. -/
theorem isUnbroken_intercalate {separator : String} {texts : List String}
    (between : isUnbroken separator = true) (each : ∀ text ∈ texts, isUnbroken text = true) :
    isUnbroken (String.intercalate separator texts) = true := by
  induction texts with
  | nil => rfl
  | cons first rest ih =>
    rw [List.forall_mem_cons] at each
    cases rest with
    | nil => simpa using each.1
    | cons second others =>
      rw [String.intercalate_cons_cons, isUnbroken_append, isUnbroken_append, each.1, between,
        ih each.2]
      rfl

/-- A text without a line break is one line. -/
theorem linesOf_unbroken {text : String} (unbroken : isUnbroken text = true) :
    linesOf text = [text] := by
  rw [linesOf, split, pieces_of_not_mem (isUnbroken_iff.1 unbroken)]
  simp

/-- Two texts with a line break between them have the lines of both. -/
theorem linesOf_append (first second : String) :
    linesOf (first ++ "\n" ++ second) = linesOf first ++ linesOf second := by
  simp [linesOf, split, pieces_append]

/-- A text without a line break stands at the start of the first line of a text behind it. -/
theorem linesOf_unbroken_append {first second : String} (unbroken : isUnbroken first = true) :
    ∃ line others, linesOf second = line :: others ∧
      linesOf (first ++ second) = (first ++ line) :: others := by
  have along (characters rest : List Char) (absent : '\n' ∉ characters) :
      ∃ piece others, pieces '\n' rest = piece :: others ∧
        pieces '\n' (characters ++ rest) = (characters ++ piece) :: others := by
    induction characters with
    | nil =>
      obtain ⟨piece, others, split⟩ := List.exists_cons_of_ne_nil (pieces_ne_nil '\n' rest)
      exact ⟨piece, others, split, split⟩
    | cons character more ih =>
      rw [List.mem_cons, not_or] at absent
      obtain ⟨piece, others, split, whole⟩ := ih absent.2
      refine ⟨piece, others, split, ?_⟩
      rw [List.cons_append, pieces, if_neg (Ne.symm absent.1), whole]
      rfl
  obtain ⟨piece, others, split, whole⟩ :=
    along first.toList second.toList (isUnbroken_iff.1 unbroken)
  refine ⟨String.ofList piece, others.map String.ofList, ?_, ?_⟩
  · rw [linesOf, Text.split, split, List.map_cons]
  · rw [linesOf, Text.split, String.toList_append, whole, List.map_cons, String.ofList_append,
      String.ofList_toList]

/-! ### Quoted texts -/

/-- Hexadecimal digits hold no line break. -/
theorem not_mem_hexDigits (number : Nat) : '\n' ∉ hexDigits number := by
  have digit (value : Nat) : '\n' ≠ Nat.digitChar value := (Nat.digitChar_ne _ (by decide)).symm
  induction number using Nat.strongRecOn with
  | ind number ih =>
    rw [hexDigits, Nat.toDigits_eq_if (by decide)]
    split
    · simp [digit]
    · rw [List.mem_append, List.mem_singleton, not_or]
      exact ⟨ih (number / 16) (by omega), digit _⟩

/-- A quoted text holds no line break. -/
theorem isUnbroken_quoted (text : String) : isUnbroken (quoted text) = true := by
  have form (character : Char) : '\n' ∉ quotedCharacter character := by
    rw [quotedCharacter]
    split_ifs with quote slash feed
    all_goals try decide
    · simp [not_mem_hexDigits]
    · simpa using Ne.symm feed
  rw [isUnbroken_iff, quoted, String.toList_ofList]
  simp [form]

end Text

/-! ### Documents -/

namespace Json

/-- One or more digits hold no line break. -/
theorem AreDigits.not_mem {characters : List Char} (digits : AreDigits characters) :
    '\n' ∉ characters :=
  fun listed => absurd (digits.each _ listed) (by decide)

/-- An exponent holds no line break. -/
theorem IsExponent.not_mem {characters : List Char} (power : IsExponent characters) :
    '\n' ∉ characters := by
  cases power with
  | none => exact List.not_mem_nil
  | power signed steps => rcases signed with rfl | rfl <;> simp [steps.not_mem]

/-- A numeral holds no line break. -/
theorem IsNumeral.not_mem {characters : List Char} (numeral : IsNumeral characters) :
    '\n' ∉ characters := by
  have without {characters : List Char} (magnitude : IsMagnitude characters) :
      '\n' ∉ characters := by
    obtain ⟨whole, ends⟩ := magnitude
    cases ends with
    | whole power => simp [whole.not_mem, power.not_mem]
    | fraction places power => simp [whole.not_mem, places.not_mem, power.not_mem]
  cases numeral with
  | positive magnitude => exact without magnitude
  | negative magnitude => simp [without magnitude]

/-- The text of a number holds no line break. -/
theorem isUnbroken_number (number : Number) : Text.isUnbroken number.text = true :=
  Text.isUnbroken_iff.2 (isNumeral_text number).not_mem

/-- The text of a whole number holds no line break. -/
theorem isUnbroken_wholeText (value : Int) : Text.isUnbroken (Number.wholeText value) = true :=
  isUnbroken_number (.whole value)

/-- The form of a string holds no line break. -/
theorem not_mem_stringForm (text : String) : '\n' ∉ stringForm text := by
  have form (character : Char) : '\n' ∉ escaped character := by
    have digit (value : Nat) : '\n' ≠ hexDigit value := (Nat.digitChar_ne _ (by decide)).symm
    rw [escaped]
    split_ifs with quote slash back page feed
    all_goals try decide
    · simp [digit]
    · simpa using Ne.symm feed
  simp [stringForm, form]

/-- Items on one line hold no line break when none of them does. -/
theorem not_mem_compactItems {items : List Json} (each : ∀ item ∈ items, '\n' ∉ item.compactForm) :
    '\n' ∉ compactItems items := by
  induction items with
  | nil => decide
  | cons item rest ih =>
    rw [List.forall_mem_cons] at each
    rw [compactItems, List.mem_append, not_or]
    refine ⟨each.1, ?_⟩
    split <;> simp [ih each.2]

/-- Members on one line hold no line break when none of their values does. -/
theorem not_mem_compactMembers {members : List (String × Json)}
    (each : ∀ member ∈ members, '\n' ∉ member.2.compactForm) : '\n' ∉ compactMembers members := by
  induction members with
  | nil => decide
  | cons member rest ih =>
    rw [List.forall_mem_cons] at each
    rw [compactMembers]
    simp only [List.mem_append, List.mem_cons, not_or]
    refine ⟨⟨not_mem_stringForm member.1, by decide, each.1⟩, ?_⟩
    split <;> simp [ih each.2]

/-- A document on one line holds no line break. -/
theorem not_mem_compactForm (json : Json) : '\n' ∉ json.compactForm := by
  induction json using Json.induct with
  | null => decide
  | bool value => cases value <;> decide
  | number value => exact (isNumeral_text value).not_mem
  | string text => exact not_mem_stringForm text
  | array items each =>
    rw [compactForm, List.mem_cons, not_or]
    exact ⟨by decide, not_mem_compactItems each⟩
  | object members each =>
    rw [compactForm, List.mem_cons, not_or]
    exact ⟨by decide, not_mem_compactMembers each⟩

/-- The text of a document on one line holds no line break. -/
theorem isUnbroken_compact (json : Json) : Text.isUnbroken json.compact = true := by
  rw [Text.isUnbroken_iff, compact, String.toList_ofList]
  exact not_mem_compactForm json

/-- The description of a value holds no line break. -/
theorem isUnbroken_described (json : Json) : Text.isUnbroken json.described = true := by
  cases json with
  | null => rfl
  | bool value => cases value <;> rfl
  | number value =>
    cases value with
    | whole value =>
      show Text.isUnbroken ("integer \x60" ++ Number.wholeText value ++ "\x60") = true
      rw [Text.isUnbroken_append, Text.isUnbroken_append, isUnbroken_wholeText]
      rfl
    | floating value =>
      show Text.isUnbroken ("floating point \x60" ++ value.text ++ "\x60") = true
      have text : Text.isUnbroken value.text = true := isUnbroken_number (.floating value)
      rw [Text.isUnbroken_append, Text.isUnbroken_append, text]
      rfl
  | string text =>
    show Text.isUnbroken ("string " ++ Text.quoted text) = true
    rw [Text.isUnbroken_append, Text.isUnbroken_quoted]
    rfl
  | array items =>
    show Text.isUnbroken "sequence" = true
    rfl
  | object members =>
    show Text.isUnbroken "map" = true
    rfl

/-- A pointer holds no line break when its segments hold none. -/
theorem isUnbroken_pointer {segments : List String}
    (each : ∀ segment ∈ segments, Text.isUnbroken segment = true) :
    Text.isUnbroken (pointer segments) = true := by
  rw [Text.isUnbroken_iff, pointer, String.toList_ofList, List.mem_flatMap]
  rintro ⟨segment, listed, inside⟩
  have absent := Text.isUnbroken_iff.1 (each segment listed)
  rw [pointerSegment, List.mem_cons, List.mem_flatMap] at inside
  obtain slash | ⟨character, within, inside⟩ := inside
  · exact absurd slash (by decide)
  · split_ifs at inside
    · exact absurd inside (by decide)
    · exact absurd inside (by decide)
    · rw [List.mem_singleton.1 inside] at absent
      exact absent within

end Json

end GatewayCheck
