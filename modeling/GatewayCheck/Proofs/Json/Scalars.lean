import GatewayCheck.Json.Printer
import GatewayCheck.Json.Reader
import GatewayCheck.Proofs.Text.Utf8
import Mathlib.Tactic.SplitIfs

/-!
Reading strings, whole numbers and literals that were printed. Each is read back from its text,
whatever follows it inside a document.
-/
namespace GatewayCheck.Json

open Text

/-! ### Strings -/

/-- The first byte of a character is the number of the character, or no ASCII character has it. -/
theorem exists_first_byte (character : Char) : ∃ byte more,
    String.utf8EncodeChar character = byte :: more ∧
      (byte.toNat = character.toNat ∨ 0x80 ≤ byte.toNat ∧ 0x80 ≤ character.toNat) := by
  have number : character.val.toNat = character.toNat := rfl
  simp only [String.utf8EncodeChar, number]
  split
  · exact ⟨_, _, rfl, .inl (toNat_byte (by omega))⟩
  split
  · exact ⟨_, _, rfl, .inr ⟨by rw [toNat_byte (by omega)]; omega, by omega⟩⟩
  split
  · exact ⟨_, _, rfl, .inr ⟨by rw [toNat_byte (by omega)]; omega, by omega⟩⟩
  · exact ⟨_, _, rfl, .inr ⟨by rw [toNat_byte (by omega)]; omega, by omega⟩⟩

/-- A digit of a hexadecimal number is read as its value. -/
theorem hexDigit?_hexDigit {digit : Nat} (small : digit < 16) :
    hexDigit? (UInt8.ofNat (hexDigit digit).toNat) = some digit := by
  have every : ∀ digit : Fin 16,
      hexDigit? (UInt8.ofNat (hexDigit digit.val).toNat) = some digit.val := by decide
  exact every ⟨digit, small⟩

/-- A digit of a hexadecimal number is an ASCII character. -/
theorem hexDigit_ascii {digit : Nat} (small : digit < 16) : (hexDigit digit).toNat < 0x80 := by
  have every : ∀ digit : Fin 16, (hexDigit digit.val).toNat < 0x80 := by decide
  exact every ⟨digit, small⟩

/-- The escape of a control character is read as the character. -/
theorem readCodePoint_control {number : Nat} (control : number < 0x20) (rest : Bytes) :
    readCodePoint (0x30 :: 0x30 :: UInt8.ofNat (hexDigit (number / 16)).toNat ::
      UInt8.ofNat (hexDigit (number % 16)).toNat :: rest) = .ok (Char.ofNat number, rest) := by
  have zero : hexDigit? 0x30 = some 0 := rfl
  have whole : ((0 * 16 + 0) * 16 + number / 16) * 16 + number % 16 = number := by omega
  have hex : readHex (0x30 :: 0x30 :: UInt8.ofNat (hexDigit (number / 16)).toNat ::
      UInt8.ofNat (hexDigit (number % 16)).toNat :: rest) = .ok (number, rest) := by
    rw [readHex]
    simp only [zero, hexDigit?_hexDigit (show number / 16 < 16 by omega),
      hexDigit?_hexDigit (show number % 16 < 16 by omega), whole]
  have low : ¬ (decide (0xdc00 ≤ number) && decide (number ≤ 0xdfff)) = true := by
    simp only [Bool.and_eq_true, decide_eq_true_eq]
    omega
  have plain : (decide (number < 0xd800) || decide (0xdbff < number)) = true := by
    simp only [Bool.or_eq_true, decide_eq_true_eq]
    omega
  rw [readCodePoint, hex]
  change (if _ then _ else if _ then _ else _) = _
  rw [if_neg low, if_pos plain]
  rfl

/-- The form of a control character is read as the character. -/
theorem readCharacters_control {character : Char} (control : character.toNat < 0x20) (fuel : Nat)
    (read : List Char) (rest : Bytes) :
    readCharacters (fuel + 1) read none
        (encodeCharacters ['\\', 'u', '0', '0', hexDigit (character.toNat / 16),
          hexDigit (character.toNat % 16)] ++ rest) =
      readCharacters fuel (character :: read) none rest := by
  have escape := readCodePoint_control control rest
  rw [Char.ofNat_toNat] at escape
  simp only [encodeCharacters_cons, utf8EncodeChar_ascii (hexDigit_ascii
    (show character.toNat / 16 < 16 by omega)), utf8EncodeChar_ascii (hexDigit_ascii
    (show character.toNat % 16 < 16 by omega))]
  change (readCodePoint (0x30 :: 0x30 :: UInt8.ofNat (hexDigit (character.toNat / 16)).toNat ::
    UInt8.ofNat (hexDigit (character.toNat % 16)).toNat :: rest) >>= fun found =>
      readCharacters fuel (found.1 :: read) none found.2) = _
  rw [escape]
  rfl

/-- A character that needs no escape is read as itself. -/
theorem readCharacters_plain {character : Char} (quote : character ≠ '"')
    (backslash : character ≠ '\\') (printable : ¬ character.toNat < 0x20) (fuel : Nat)
    (read : List Char) (rest : Bytes) :
    readCharacters (fuel + 1) read none (encodeCharacters [character] ++ rest) =
      readCharacters fuel (character :: read) none rest := by
  obtain ⟨byte, more, bytes, number⟩ := exists_first_byte character
  have taken := takeCharacter?_append character rest
  have form : encodeCharacters [character] = byte :: more := by
    rw [encodeCharacters_cons, bytes]
    exact List.append_nil _
  have unquoted : byte ≠ 0x22 := by
    rintro rfl
    rcases number with same | ⟨high, -⟩
    · exact quote (Char.toNat_inj.1 same.symm)
    · exact absurd high (by decide)
  have unescaped : byte ≠ 0x5c := by
    rintro rfl
    rcases number with same | ⟨high, -⟩
    · exact backslash (Char.toNat_inj.1 same.symm)
    · exact absurd high (by decide)
  have solid : ¬ byte < 0x20 := by
    rw [UInt8.lt_iff_toNat_lt]
    change ¬ byte.toNat < 0x20
    omega
  rw [bytes, List.cons_append] at taken
  rw [form, List.cons_append, readCharacters, if_neg unquoted, if_neg unescaped, if_neg solid]
  simp only [taken]

/-- The form of a character is read as the character. -/
theorem readCharacters_escaped (character : Char) (fuel : Nat) (read : List Char) (rest : Bytes) :
    readCharacters (fuel + 1) read none (encodeCharacters (escaped character) ++ rest) =
      readCharacters fuel (character :: read) none rest := by
  rw [escaped]
  split_ifs with quote backslash backspace feed line carriage tab control
  · subst quote
    rfl
  · subst backslash
    rfl
  · subst backspace
    rfl
  · subst feed
    rfl
  · subst line
    rfl
  · subst carriage
    rfl
  · subst tab
    rfl
  · exact readCharacters_control control fuel read rest
  · exact readCharacters_plain quote backslash control fuel read rest

/-- The form of a string is read as the string, behind its opening quote. -/
theorem readCharacters_flatMap {characters : List Char} {fuel : Nat}
    (enough : characters.length < fuel) (read : List Char) (rest : Bytes) :
    readCharacters fuel read none
        (encodeCharacters (characters.flatMap escaped ++ ['"']) ++ rest) =
      .ok (String.ofList (read.reverse ++ characters), rest) := by
  induction characters generalizing fuel read with
  | nil =>
    obtain ⟨fuel, rfl⟩ : ∃ less, fuel = less + 1 := ⟨fuel - 1, by simp at enough; omega⟩
    rw [List.append_nil]
    rfl
  | cons first others ih =>
    obtain ⟨fuel, rfl⟩ : ∃ less, fuel = less + 1 := ⟨fuel - 1, by simp at enough; omega⟩
    rw [List.flatMap_cons, List.append_assoc, encodeCharacters_append, List.append_assoc,
      readCharacters_escaped, ih (Nat.lt_of_succ_lt_succ enough), List.reverse_cons,
      List.append_assoc, List.singleton_append]

/-- A character has a form. -/
theorem escaped_ne_nil (character : Char) : escaped character ≠ [] := by
  rw [escaped]
  split_ifs <;> exact List.cons_ne_nil _ _

/-- The form of a string has more bytes than the string has characters. -/
theorem length_lt_form (characters : List Char) :
    characters.length < (encodeCharacters (characters.flatMap escaped ++ ['"'])).length := by
  have forms : characters.length ≤ (characters.flatMap escaped).length := by
    induction characters with
    | nil => exact Nat.le_refl _
    | cons first rest ih =>
      have form := List.length_pos_iff.2 (escaped_ne_nil first)
      rw [List.flatMap_cons, List.length_append, List.length_cons]
      omega
  have bytes := length_le_encodeCharacters (characters.flatMap escaped ++ ['"'])
  rw [List.length_append, List.length_singleton] at bytes
  omega

/-- The form of a string is read as the string. -/
theorem readString_form (text : String) (rest : Bytes) :
    readString (encodeCharacters (text.toList.flatMap escaped ++ ['"']) ++ rest) =
      .ok (text, rest) := by
  have enough := length_lt_form text.toList
  rw [readString, readCharacters_flatMap, List.reverse_nil, List.nil_append, String.ofList_toList]
  rw [List.length_append]
  omega

/-! ### Numbers -/

/-- What follows a value inside a document, or nothing: a comma, a closing mark, or a blank that is
printed. -/
def IsBoundary (rest : Bytes) : Prop :=
  ∀ byte ∈ rest.head?, byte = 0x2c ∨ byte = 0x5d ∨ byte = 0x7d ∨ byte = 0x20 ∨ byte = 0x0a

section Numbers

variable {rest : Bytes} {negative : Bool} {number : Nat}

/-- Behind a whole number a boundary ends it. -/
theorem readAfterWhole_boundary (ends : IsBoundary rest) :
    readAfterWhole negative number rest = .ok (wholeNumber negative number, rest) := by
  cases rest with
  | nil => rfl
  | cons byte more =>
    rcases ends byte rfl with rfl | rfl | rfl | rfl | rfl <;> rfl

/-- Digits only add to a number. -/
theorem le_ofDigitChars (digits : List Char) (start : Nat) :
    start ≤ Nat.ofDigitChars 10 digits start := by
  induction digits generalizing start with
  | nil => exact Nat.le_refl _
  | cons first others ih =>
    rw [Nat.ofDigitChars_cons]
    have := ih (10 * start + (first.toNat - '0'.toNat))
    omega

/-- A digit is an ASCII character. -/
theorem encodeCharacters_digit {digit : Char} (isDigit : digit.isDigit = true)
    (others : List Char) : encodeCharacters (digit :: others) =
      UInt8.ofNat digit.toNat :: encodeCharacters others := by
  simp only [Char.isDigit, Bool.and_eq_true, decide_eq_true_eq, ge_iff_le,
    UInt32.le_iff_toNat_le] at isDigit
  have ascii : digit.toNat < 0x80 := Nat.lt_of_le_of_lt isDigit.2 (by decide)
  rw [encodeCharacters_cons, utf8EncodeChar_ascii ascii, List.singleton_append]

/-- The byte of a digit is read as its value. -/
theorem digit?_digit {digit : Char} (isDigit : digit.isDigit = true) :
    digit? (UInt8.ofNat digit.toNat) = some (digit.toNat - '0'.toNat) := by
  simp only [Char.isDigit, Bool.and_eq_true, decide_eq_true_eq, ge_iff_le,
    UInt32.le_iff_toNat_le] at isDigit
  have byte : (UInt8.ofNat digit.toNat).toNat = digit.toNat :=
    toNat_byte (Nat.lt_of_le_of_lt isDigit.2 (by decide))
  have within : (decide (0x30 ≤ UInt8.ofNat digit.toNat) &&
      decide (UInt8.ofNat digit.toNat ≤ 0x39)) = true := by
    simp only [UInt8.le_iff_toNat_le, byte, Bool.and_eq_true, decide_eq_true_eq]
    exact isDigit
  rw [digit?, if_pos within, byte]
  rfl

/-- A boundary starts with no digit. -/
theorem IsBoundary.digit? (ends : IsBoundary rest) : rest.head?.bind digit? = none := by
  cases rest with
  | nil => rfl
  | cons byte more => rcases ends byte rfl with rfl | rfl | rfl | rfl | rfl <;> rfl

/-- Digits are read as the number that they spell, where it is small enough. -/
theorem readWhole_digits {digits : List Char} (all : ∀ digit ∈ digits, digit.isDigit = true)
    {start : Nat} (ends : IsBoundary rest)
    (small : Nat.ofDigitChars 10 digits start ≤ greatestSignificand) :
    readWhole negative start (encodeCharacters digits ++ rest) =
      .ok (wholeNumber negative (Nat.ofDigitChars 10 digits start), rest) := by
  induction digits generalizing start with
  | nil =>
    rw [← readAfterWhole_boundary ends]
    cases rest with
    | nil => rfl
    | cons byte more =>
      have none : Json.digit? byte = none := ends.digit?
      change readWhole negative start (byte :: more) = _
      rw [readWhole, none]
      rfl
  | cons first others ih =>
    have isDigit := all first List.mem_cons_self
    have value : start * 10 + (first.toNat - '0'.toNat) =
        10 * start + (first.toNat - '0'.toNat) := by omega
    rw [Nat.ofDigitChars_cons] at small ⊢
    have room := Nat.le_trans (le_ofDigitChars others _) small
    rw [encodeCharacters_digit isDigit, List.cons_append, readWhole, digit?_digit isDigit]
    simp only [value, if_pos room]
    exact ih (fun digit listed => all digit (List.mem_cons_of_mem _ listed)) small

/-- The digits of a positive number do not start with zero. -/
theorem exists_leading_digit (positive : 0 < number) : ∃ first others,
    Nat.toDigits 10 number = first :: others ∧ first.toNat - '0'.toNat ≠ 0 := by
  induction number using Nat.strongRecOn with
  | ind number ih =>
    rw [Nat.toDigits_eq_if (by decide)]
    split
    · rename_i single
      have every : ∀ digit : Fin 10, 0 < digit.val →
          (Nat.digitChar digit.val).toNat - '0'.toNat ≠ 0 := by decide
      exact ⟨_, _, rfl, every ⟨number, single⟩ positive⟩
    · obtain ⟨first, others, digits, leading⟩ := ih (number / 10) (by omega) (by omega)
      exact ⟨first, _, by rw [digits, List.cons_append], leading⟩

/-- The digits of a number are read as the number. -/
theorem readNumber_toDigits (ends : IsBoundary rest) (small : number ≤ greatestSignificand) :
    readNumber negative (encodeCharacters (Nat.toDigits 10 number) ++ rest) =
      .ok (wholeNumber negative number, rest) := by
  rcases Nat.eq_zero_or_pos number with rfl | positive
  · have alone : ¬ (rest.head?.bind digit?).isSome = true := by rw [ends.digit?]; decide
    change (if (rest.head?.bind digit?).isSome = true then _ else _) = _
    rw [if_neg alone]
    exact readAfterWhole_boundary ends
  · obtain ⟨first, others, digits, leading⟩ := exists_leading_digit positive
    have all : ∀ digit ∈ first :: others, digit.isDigit = true := by
      rw [← digits]
      exact fun digit listed => Nat.isDigit_of_mem_toDigits (by decide) (by decide) listed
    have spelt : Nat.ofDigitChars 10 others (first.toNat - '0'.toNat) = number := by
      have whole := @Nat.ofDigitChars_toDigits 10 number (by decide) (by decide)
      rwa [digits, Nat.ofDigitChars_cons, Nat.mul_zero, Nat.zero_add] at whole
    have reads := @readWhole_digits rest negative others
      (fun digit listed => all digit (List.mem_cons_of_mem _ listed)) (first.toNat - '0'.toNat) ends
      (spelt ▸ small)
    rw [digits, encodeCharacters_digit (all first List.mem_cons_self), List.cons_append, readNumber,
      digit?_digit (all first List.mem_cons_self)]
    split
    · rename_i none
      cases none
    · rename_i zero
      exact absurd (Option.some.inj zero) leading
    · rename_i digit _ same
      obtain rfl := Option.some.inj same
      rw [reads, spelt]

end Numbers

/-! ### Values -/

/-- Blanks are skipped up to a mark that is none. -/
theorem skipBlanks_cons {byte : UInt8} (solid : isBlank byte = false) (rest : Bytes) :
    skipBlanks (byte :: rest) = byte :: rest := by
  rw [skipBlanks, List.dropWhile_cons_of_neg (by simp [solid])]

/-- The text of a document is read as the document, whatever follows it. -/
def Reads (depth : Nat) (json : Json) : Prop :=
  ∀ rest, IsBoundary rest →
    readValue depth (encodeCharacters json.compactForm ++ rest) = .ok (json, rest)

/-- A value starts at its first byte when this is no blank and opens neither array nor object. -/
theorem readValue_scalar {byte : UInt8} (solid : isBlank byte = false) (list : byte ≠ 0x5b)
    (object : byte ≠ 0x7b) (depth : Nat) (rest : Bytes) :
    readValue depth (byte :: rest) = readScalar byte rest := by
  rw [readValue, skipBlanks_cons solid]
  simp only [if_neg list, if_neg object]

/-- The byte of a digit is no other mark. -/
theorem ne_of_digit {byte mark : UInt8} (digit : (digit? byte).isSome = true)
    (none : digit? mark = none) : byte ≠ mark := by
  rintro rfl
  rw [none] at digit
  cases digit

/-- The byte of a digit is no blank. -/
theorem isBlank_digit {byte : UInt8} (digit : (digit? byte).isSome = true) :
    isBlank byte = false := by
  simp only [isBlank, Bool.or_eq_false_iff, beq_eq_false_iff_ne]
  exact ⟨⟨⟨ne_of_digit digit rfl, ne_of_digit digit rfl⟩, ne_of_digit digit rfl⟩,
    ne_of_digit digit rfl⟩

/-- The byte of a digit starts a number. -/
theorem readValue_digit {byte : UInt8} (digit : (digit? byte).isSome = true) (depth : Nat)
    (rest : Bytes) : readValue depth (byte :: rest) = readNumber false (byte :: rest) := by
  rw [readValue_scalar (isBlank_digit digit) (ne_of_digit digit rfl) (ne_of_digit digit rfl),
    readScalar, if_neg (ne_of_digit digit rfl), if_neg (ne_of_digit digit rfl),
    if_neg (ne_of_digit digit rfl), if_neg (ne_of_digit digit rfl), if_pos digit]

/-- The digits of a number start with the byte of a digit. -/
theorem exists_first_digit (number : Nat) : ∃ byte more,
    encodeCharacters (Nat.toDigits 10 number) = byte :: more ∧ (digit? byte).isSome = true := by
  have all : ∀ digit ∈ Nat.toDigits 10 number, digit.isDigit = true :=
    fun digit listed => Nat.isDigit_of_mem_toDigits (by decide) (by decide) listed
  obtain ⟨first, others, digits⟩ := List.exists_cons_of_ne_nil (@Nat.toDigits_ne_nil number 10)
  have isDigit : first.isDigit = true := all first (by rw [digits]; exact List.mem_cons_self)
  refine ⟨_, _, by rw [digits, encodeCharacters_digit isDigit], ?_⟩
  rw [digit?_digit isDigit]
  rfl

/-- Whole numbers of at most 64 bits. -/
def IsShort (value : Int) : Prop :=
  -((Nat.pow 2 63 : Nat) : Int) ≤ value ∧ value ≤ (greatestSignificand : Nat)

instance (value : Int) : Decidable (IsShort value) := inferInstanceAs (Decidable (_ ∧ _))

/-- A whole number of at most 64 bits is read from its text. -/
theorem reads_whole {value : Int} (short : IsShort value) (depth : Nat) :
    Reads depth (.number (.whole value)) := by
  intro rest ends
  have greatest : greatestSignificand = 2 ^ 64 - 1 := rfl
  have power : Nat.pow 2 63 = 2 ^ 63 := rfl
  obtain ⟨least, most⟩ := short
  rw [compactForm, Number.text, Number.wholeText, String.toList_ofList]
  split
  · rename_i below
    have reads := @readNumber_toDigits rest true value.natAbs ends (by omega)
    have minus : readValue depth (encodeCharacters ('-' :: Nat.toDigits 10 value.natAbs) ++ rest) =
        readNumber true (encodeCharacters (Nat.toDigits 10 value.natAbs) ++ rest) :=
      readValue_scalar rfl (by decide) (by decide) depth _
    have magnitude : (decide (0 < value.natAbs) && decide (value.natAbs ≤ Nat.pow 2 63)) =
        true := by
      simp only [Bool.and_eq_true, decide_eq_true_eq]
      omega
    have same : -(value.natAbs : Int) = value := by omega
    rw [minus, reads, wholeNumber]
    simp only [Bool.not_true, Bool.false_eq_true, if_false, if_pos magnitude, same]
  · rename_i above
    have reads := @readNumber_toDigits rest false value.natAbs ends (by omega)
    obtain ⟨byte, more, form, digit⟩ := exists_first_digit value.natAbs
    have same : (value.natAbs : Int) = value := by omega
    rw [form, List.cons_append, readValue_digit digit, ← List.cons_append, ← form, reads,
      wholeNumber]
    simp only [Bool.not_false, if_true, same]

/-- A string is read from its text. -/
theorem reads_string (text : String) (depth : Nat) : Reads depth (.string text) := by
  intro rest _
  have scalar : readValue depth (encodeCharacters (stringForm text) ++ rest) =
      readScalar 0x22 (encodeCharacters (text.toList.flatMap escaped ++ ['"']) ++ rest) :=
    readValue_scalar rfl (by decide) (by decide) depth _
  have quoted (bytes : Bytes) : readScalar 0x22 bytes =
      (readString bytes).map fun found => (.string found.1, found.2) := by
    change (readString bytes >>= _) = _
    cases readString bytes <;> rfl
  rw [compactForm, scalar, quoted, readString_form]
  rfl

/-- A literal is read from its text. -/
theorem reads_literal (depth : Nat) : Reads depth .null ∧ ∀ value, Reads depth (.bool value) := by
  refine ⟨fun rest _ => ?_, fun value rest _ => ?_⟩
  · exact readValue_scalar rfl (by decide) (by decide) depth _
  · cases value <;> exact readValue_scalar rfl (by decide) (by decide) depth _

end GatewayCheck.Json
