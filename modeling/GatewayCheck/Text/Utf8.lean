/-!
Reading characters from bytes. Only the shortest encoding of a code point is accepted, and
surrogates are not characters.
-/
namespace GatewayCheck

/-- File contents and raw documents are sequences of bytes. -/
abbrev Bytes := List UInt8

namespace Text

/-- The low six bits of a continuation byte. -/
def continuation? (byte : UInt8) : Option Nat :=
  if 0x80 ≤ byte && byte < 0xc0 then some (byte.toNat - 0x80) else none

/-- The character of a code point, when the code point needs at least `least` and is a scalar
value. -/
def scalar? (least codePoint : Nat) : Option Char :=
  if least ≤ codePoint && codePoint.isValidChar then some (Char.ofNat codePoint) else none

/-- The first character of a byte sequence and the bytes after it. -/
def takeCharacter? : Bytes → Option (Char × Bytes)
  | [] => none
  | first :: rest =>
    if first < 0x80 then some (Char.ofNat first.toNat, rest)
    else if first < 0xc0 then none
    else if first < 0xe0 then
      match rest with
      | second :: rest => do
        let low ← continuation? second
        let character ← scalar? 0x80 ((first.toNat - 0xc0) * 0x40 + low)
        return (character, rest)
      | _ => none
    else if first < 0xf0 then
      match rest with
      | second :: third :: rest => do
        let middle ← continuation? second
        let low ← continuation? third
        let character ← scalar? 0x800 ((first.toNat - 0xe0) * 0x1000 + middle * 0x40 + low)
        return (character, rest)
      | _ => none
    else if first < 0xf8 then
      match rest with
      | second :: third :: fourth :: rest => do
        let high ← continuation? second
        let middle ← continuation? third
        let low ← continuation? fourth
        let character ← scalar? 0x10000
          ((first.toNat - 0xf0) * 0x40000 + high * 0x1000 + middle * 0x40 + low)
        return (character, rest)
      | _ => none
    else none

/-- Reads at most `fuel` characters. -/
def decodeWithin : Nat → Bytes → Option (List Char)
  | 0, _ => some []
  | _ + 1, [] => some []
  | fuel + 1, bytes => do
    let (character, rest) ← takeCharacter? bytes
    let characters ← decodeWithin fuel rest
    return character :: characters

/-- The characters of a byte sequence, or nothing when some byte belongs to no character. -/
def decode? (bytes : Bytes) : Option (List Char) := decodeWithin bytes.length bytes

/-- The bytes of characters. -/
def encodeCharacters (characters : List Char) : Bytes :=
  characters.flatMap String.utf8EncodeChar

/-- The bytes of a text. -/
def encode (text : String) : Bytes := encodeCharacters text.toList

/-- Texts in the order of their bytes. -/
def inByteOrder (texts : List String) : List String :=
  texts.mergeSort fun first second => encode first ≤ encode second

end Text

end GatewayCheck
