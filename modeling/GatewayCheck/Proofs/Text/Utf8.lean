import GatewayCheck.Text.Utf8

/-!
Reading the bytes of a text. The bytes of a character are read as that character, so the bytes of a
text are read as its characters.
-/
namespace GatewayCheck.Text

/-! ### Bytes -/

section Bytes

variable {number count base : Nat} {bound : UInt8}

/-- The number of a byte that is made from a small number. -/
theorem toNat_byte (small : number < 0x100) : (UInt8.ofNat number).toNat = number := by
  rw [UInt8.toNat_ofNat']
  omega

/-- One of some bytes from a base on is below a bound that is not among them. -/
theorem byte_lt (few : number < count) (room : count + base ≤ bound.toNat) :
    UInt8.ofNat (number + base) < bound := by
  have least := bound.toNat_lt
  rw [UInt8.lt_iff_toNat_lt, toNat_byte (by omega)]
  omega

/-- A byte from a base on is not below a bound that is not above the base. -/
theorem not_byte_lt (few : number < count) (room : count + base ≤ 0x100)
    (least : bound.toNat ≤ base) : ¬ UInt8.ofNat (number + base) < bound := by
  rw [UInt8.lt_iff_toNat_lt, toNat_byte (by omega)]
  omega

/-- A continuation byte stands for its low six bits. -/
theorem continuation?_byte (few : number < 0x40) :
    continuation? (UInt8.ofNat (number + 0x80)) = some number := by
  have least : 0x80 ≤ UInt8.ofNat (number + 0x80) := by
    rw [UInt8.le_iff_toNat_le, toNat_byte (by omega)]
    exact Nat.le_add_left _ _
  have within : (0x80 ≤ UInt8.ofNat (number + 0x80) && UInt8.ofNat (number + 0x80) < 0xc0) =
      true := by
    rw [Bool.and_eq_true, decide_eq_true_eq, decide_eq_true_eq]
    exact ⟨least, byte_lt few (by decide)⟩
  rw [continuation?, if_pos within, toNat_byte (by omega), Nat.add_sub_cancel]

end Bytes

/-! ### Characters -/

variable {character : Char}

/-- The number of a character stands for the character, where it needs as much as the least. -/
theorem scalar?_toNat {least : Nat} (enough : least ≤ character.toNat) :
    scalar? least character.toNat = some character := by
  have valid : (decide (least ≤ character.toNat) &&
      decide character.toNat.isValidChar) = true := by
    simpa using ⟨enough, character.valid⟩
  rw [scalar?, if_pos valid, Char.ofNat_toNat]

/-- The number of a character is below the end of the code points. -/
theorem toNat_lt (character : Char) : character.toNat < 0x110000 := by
  have valid : character.toNat.isValidChar := character.valid
  rw [Nat.isValidChar] at valid
  omega

/-- An ASCII character is encoded as the byte of its number. -/
theorem utf8EncodeChar_ascii (ascii : character.toNat < 0x80) :
    String.utf8EncodeChar character = [UInt8.ofNat character.toNat] :=
  if_pos (Nat.le_of_lt_succ ascii)

section Steps

variable {first second third fourth : UInt8} {high middle low : Nat} {rest : Bytes}

/-- Two bytes are read by their low bits. -/
theorem takeCharacter?_two (one : ¬ first < 0x80) (other : ¬ first < 0xc0) (two : first < 0xe0)
    (last : continuation? second = some low)
    (whole : scalar? 0x80 ((first.toNat - 0xc0) * 0x40 + low) = some character) :
    takeCharacter? (first :: second :: rest) = some (character, rest) := by
  rw [takeCharacter?, if_neg one, if_neg other, if_pos two]
  refine Option.bind_eq_some_iff.2 ⟨low, last, ?_⟩
  exact Option.bind_eq_some_iff.2 ⟨character, whole, rfl⟩

/-- Three bytes are read by their low bits. -/
theorem takeCharacter?_three (one : ¬ first < 0x80) (other : ¬ first < 0xc0) (two : ¬ first < 0xe0)
    (three : first < 0xf0) (next : continuation? second = some middle)
    (last : continuation? third = some low)
    (whole : scalar? 0x800 ((first.toNat - 0xe0) * 0x1000 + middle * 0x40 + low) =
      some character) :
    takeCharacter? (first :: second :: third :: rest) = some (character, rest) := by
  rw [takeCharacter?, if_neg one, if_neg other, if_neg two, if_pos three]
  refine Option.bind_eq_some_iff.2 ⟨middle, next, ?_⟩
  refine Option.bind_eq_some_iff.2 ⟨low, last, ?_⟩
  exact Option.bind_eq_some_iff.2 ⟨character, whole, rfl⟩

/-- Four bytes are read by their low bits. -/
theorem takeCharacter?_four (one : ¬ first < 0x80) (other : ¬ first < 0xc0) (two : ¬ first < 0xe0)
    (three : ¬ first < 0xf0) (four : first < 0xf8) (next : continuation? second = some high)
    (further : continuation? third = some middle) (last : continuation? fourth = some low)
    (whole : scalar? 0x10000
      ((first.toNat - 0xf0) * 0x40000 + high * 0x1000 + middle * 0x40 + low) = some character) :
    takeCharacter? (first :: second :: third :: fourth :: rest) = some (character, rest) := by
  rw [takeCharacter?, if_neg one, if_neg other, if_neg two, if_neg three, if_pos four]
  refine Option.bind_eq_some_iff.2 ⟨high, next, ?_⟩
  refine Option.bind_eq_some_iff.2 ⟨middle, further, ?_⟩
  refine Option.bind_eq_some_iff.2 ⟨low, last, ?_⟩
  exact Option.bind_eq_some_iff.2 ⟨character, whole, rfl⟩

end Steps

/-- The bytes of a character are read as that character. -/
theorem takeCharacter?_append (character : Char) (rest : Bytes) :
    takeCharacter? (String.utf8EncodeChar character ++ rest) = some (character, rest) := by
  have greatest := toNat_lt character
  have number : character.val.toNat = character.toNat := rfl
  have low : character.toNat % 64 < 0x40 := Nat.mod_lt _ (by decide)
  have middle : character.toNat / 64 % 64 < 0x40 := Nat.mod_lt _ (by decide)
  have high : character.toNat / 4096 % 64 < 0x40 := Nat.mod_lt _ (by decide)
  simp only [String.utf8EncodeChar, number]
  split
  · rename_i one
    have few : character.toNat < 0x80 := by omega
    have small : UInt8.ofNat character.toNat < 0x80 :=
      @byte_lt character.toNat 0x80 0 0x80 few (by decide)
    rw [List.singleton_append, takeCharacter?.eq_def]
    simp only [if_pos small, toNat_byte (show character.toNat < 0x100 by omega), Char.ofNat_toNat]
  split
  · rename_i one two
    have few : character.toNat / 64 % 32 < 0x20 := Nat.mod_lt _ (by decide)
    refine takeCharacter?_two (not_byte_lt few (by decide) (by decide))
      (not_byte_lt few (by decide) (by decide)) (byte_lt few (by decide)) (continuation?_byte low)
      ?_
    have whole : (character.toNat / 64 % 32 + 192 - 0xc0) * 0x40 + character.toNat % 64 =
        character.toNat := by omega
    rw [toNat_byte (by omega), whole]
    exact scalar?_toNat (by omega)
  split
  · rename_i one two three
    have few : character.toNat / 4096 % 16 < 0x10 := Nat.mod_lt _ (by decide)
    refine takeCharacter?_three (not_byte_lt few (by decide) (by decide))
      (not_byte_lt few (by decide) (by decide)) (not_byte_lt few (by decide) (by decide))
      (byte_lt few (by decide)) (continuation?_byte middle) (continuation?_byte low) ?_
    have whole : (character.toNat / 4096 % 16 + 224 - 0xe0) * 0x1000 +
        character.toNat / 64 % 64 * 0x40 + character.toNat % 64 = character.toNat := by omega
    rw [toNat_byte (by omega), whole]
    exact scalar?_toNat (by omega)
  · rename_i one two three
    have few : character.toNat / 262144 % 8 < 0x08 := Nat.mod_lt _ (by decide)
    refine takeCharacter?_four (not_byte_lt few (by decide) (by decide))
      (not_byte_lt few (by decide) (by decide)) (not_byte_lt few (by decide) (by decide))
      (not_byte_lt few (by decide) (by decide)) (byte_lt few (by decide)) (continuation?_byte high)
      (continuation?_byte middle) (continuation?_byte low) ?_
    have whole : (character.toNat / 262144 % 8 + 240 - 0xf0) * 0x40000 +
        character.toNat / 4096 % 64 * 0x1000 + character.toNat / 64 % 64 * 0x40 +
        character.toNat % 64 = character.toNat := by omega
    rw [toNat_byte (by omega), whole]
    exact scalar?_toNat (by omega)

/-! ### Texts -/

/-- The bytes of characters behind a first one. -/
theorem encodeCharacters_cons (first : Char) (rest : List Char) :
    encodeCharacters (first :: rest) = String.utf8EncodeChar first ++ encodeCharacters rest :=
  List.flatMap_cons

/-- The bytes of characters behind others. -/
theorem encodeCharacters_append (first second : List Char) :
    encodeCharacters (first ++ second) = encodeCharacters first ++ encodeCharacters second :=
  List.flatMap_append

/-- The bytes of characters are read as these characters, in no more steps than characters. -/
theorem decodeWithin_encodeCharacters {characters : List Char} {fuel : Nat}
    (enough : characters.length ≤ fuel) :
    decodeWithin fuel (encodeCharacters characters) = some characters := by
  induction characters generalizing fuel with
  | nil => cases fuel <;> rfl
  | cons first rest ih =>
    obtain ⟨fuel, rfl⟩ : ∃ less, fuel = less + 1 := ⟨fuel - 1, by simp at enough; omega⟩
    have read := takeCharacter?_append first (encodeCharacters rest)
    obtain ⟨byte, more, bytes⟩ := List.exists_cons_of_ne_nil (@String.utf8EncodeChar_ne_nil first)
    rw [bytes, List.cons_append] at read
    rw [encodeCharacters_cons, bytes, List.cons_append, decodeWithin]
    · simp only [read, ih (Nat.le_of_succ_le_succ enough), Option.bind_eq_bind, Option.bind_some,
        Option.pure_def]
    · exact nofun

/-- There are at least as many bytes as characters. -/
theorem length_le_encodeCharacters (characters : List Char) :
    characters.length ≤ (encodeCharacters characters).length := by
  induction characters with
  | nil => exact Nat.le_refl _
  | cons first rest ih =>
    have some_byte : 0 < (String.utf8EncodeChar first).length :=
      List.length_pos_iff.2 String.utf8EncodeChar_ne_nil
    rw [encodeCharacters_cons, List.length_append, List.length_cons]
    omega

/-- The bytes of characters are read as these characters. -/
theorem decode?_encodeCharacters (characters : List Char) :
    decode? (encodeCharacters characters) = some characters :=
  decodeWithin_encodeCharacters (length_le_encodeCharacters characters)

end GatewayCheck.Text
