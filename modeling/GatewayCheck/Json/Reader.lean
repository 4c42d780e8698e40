import GatewayCheck.Json.Basic
import GatewayCheck.Text.Utf8

/-!
Reading a document from bytes. A reader returns a value with the bytes after it, or a fault with the
bytes after the place where it was found; the line and column of that place follow from the number
of bytes read.
-/
namespace GatewayCheck.Json

/-- The ways in which bytes fail to be a document. -/
inductive Fault where
  | endInList
  | endInObject
  | endInString
  | endInValue
  | expectedColon
  | expectedListEnd
  | expectedObjectEnd
  | expectedLiteral
  | expectedValue
  | invalidEscape
  | invalidNumber
  | numberOutOfRange
  | invalidCodePoint
  | controlCharacter
  | keyNotString
  | loneSurrogate
  | unfinishedSurrogate
  | trailingComma
  | trailingCharacters
  | tooDeep
  deriving DecidableEq, Repr

/-- The text of a fault. -/
def Fault.message : Fault → String
  | endInList => "EOF while parsing a list"
  | endInObject => "EOF while parsing an object"
  | endInString => "EOF while parsing a string"
  | endInValue => "EOF while parsing a value"
  | expectedColon => "expected \x60:\x60"
  | expectedListEnd => "expected \x60,\x60 or \x60]\x60"
  | expectedObjectEnd => "expected \x60,\x60 or \x60\x7d\x60"
  | expectedLiteral => "expected ident"
  | expectedValue => "expected value"
  | invalidEscape => "invalid escape"
  | invalidNumber => "invalid number"
  | numberOutOfRange => "number out of range"
  | invalidCodePoint => "invalid unicode code point"
  | controlCharacter => "control character (\\u0000-\\u001F) found while parsing a string"
  | keyNotString => "key must be a string"
  | loneSurrogate => "lone leading surrogate in hex escape"
  | unfinishedSurrogate => "unexpected end of hex escape"
  | trailingComma => "trailing comma"
  | trailingCharacters => "trailing characters"
  | tooDeep => "recursion limit exceeded"

/-- A fault, with the bytes after its place. -/
structure Failure where
  fault : Fault
  rest : Bytes
  deriving DecidableEq, Repr

/-- A fault found behind the bytes read so far. -/
def failAt {α : Type} (fault : Fault) (rest : Bytes) : Except Failure α := .error ⟨fault, rest⟩

/-- A fault found at the next byte, which counts as read. -/
def failAtNext {α : Type} (fault : Fault) (rest : Bytes) : Except Failure α :=
  .error ⟨fault, rest.tail⟩

/-- Space, tab, line feed and carriage return stand between the parts of a document. -/
def isBlank (byte : UInt8) : Bool := byte == 0x20 || byte == 0x09 || byte == 0x0a || byte == 0x0d

/-- Drops the blanks before the next part. -/
def skipBlanks (bytes : Bytes) : Bytes := bytes.dropWhile isBlank

/-- The value of a decimal digit. -/
def digit? (byte : UInt8) : Option Nat :=
  if 0x30 ≤ byte && byte ≤ 0x39 then some (byte.toNat - 0x30) else none

/-- The value of a hexadecimal digit. -/
def hexDigit? (byte : UInt8) : Option Nat :=
  if 0x30 ≤ byte && byte ≤ 0x39 then some (byte.toNat - 0x30)
  else if 0x41 ≤ byte && byte ≤ 0x46 then some (byte.toNat - 0x37)
  else if 0x61 ≤ byte && byte ≤ 0x66 then some (byte.toNat - 0x57)
  else none

/-- Reads the bytes of a literal that follow its first letter. -/
def readLiteral (value : Json) : Bytes → Bytes → Except Failure (Json × Bytes)
  | [], rest => .ok (value, rest)
  | _ :: _, [] => failAt .endInValue []
  | expected :: more, byte :: rest =>
    if byte = expected then readLiteral value more rest else failAt .expectedLiteral rest

/-! ### Numbers -/

/-- The greatest significand that is kept exactly. -/
def greatestSignificand : Nat := Nat.pow 2 64 - 1

/-- The greatest written exponent that is kept. -/
def greatestWrittenExponent : Nat := Nat.pow 2 31 - 1

/-- A power of ten up to `10 ^ 308`. -/
def powerOfTen (exponent : Nat) : Binary64 :=
  (Binary64.ofDecimal false 1 exponent).getD (.zero false)

/-- Divides by a power of ten, by at most `10 ^ 308` at a time; after three steps zero is left. -/
def divideByPower : (steps : Nat) → Binary64 → Nat → Binary64
  | 0, magnitude, _ => .zero magnitude.negative
  | steps + 1, magnitude, exponent =>
    if exponent ≤ 308 then (magnitude.divide (powerOfTen exponent)).getD (.zero false)
    else if magnitude.isZero then magnitude
    else
      divideByPower steps ((magnitude.divide (powerOfTen 308)).getD (.zero false)) (exponent - 308)

/-- The number `significand * 10 ^ exponent`, by one rounded operation on a rounded significand. -/
def scaledNumber (significand : Nat) (exponent : Int) : Option Binary64 := do
  let magnitude ← Binary64.ofQuotient false significand 1
  if exponent < 0 then return divideByPower 4 magnitude exponent.natAbs
  else if exponent ≤ 308 then magnitude.multiply (powerOfTen exponent.natAbs)
  else if magnitude.isZero then return magnitude
  else none

/-- The sign is applied to the finished magnitude. -/
def signed (negative : Bool) (magnitude : Binary64) : Json :=
  .number (.floating (if negative then magnitude.opposite else magnitude))

/-- A number of the given parts, or a fault when it is too large. -/
def readScaled (negative : Bool) (significand : Nat) (exponent : Int) (rest : Bytes) :
    Except Failure (Json × Bytes) :=
  match scaledNumber significand exponent with
  | some magnitude => .ok (signed negative magnitude, rest)
  | none => failAt .numberOutOfRange rest

/-- Reads further digits of an exponent. -/
def readExponentDigits (negative : Bool) (significand : Nat) (start : Int)
    (negativeExponent : Bool) : (exponent : Nat) → Bytes → Except Failure (Json × Bytes)
  | exponent, [] => finish exponent []
  | exponent, byte :: rest =>
    match digit? byte with
    | none => finish exponent (byte :: rest)
    | some digit =>
      if exponent * 10 + digit ≤ greatestWrittenExponent then
        readExponentDigits negative significand start negativeExponent (exponent * 10 + digit) rest
      else if significand ≠ 0 && !negativeExponent then failAt .numberOutOfRange rest
      else .ok (signed negative (.zero false), rest.dropWhile fun byte => (digit? byte).isSome)
where
  /-- The number with the exponent read. -/
  finish (exponent : Nat) (rest : Bytes) : Except Failure (Json × Bytes) :=
    readScaled negative significand
      (if negativeExponent then start - exponent else start + exponent) rest

/-- Reads an exponent behind its letter: a sign or none, and at least one digit. -/
def readExponent (negative : Bool) (significand : Nat) (start : Int) (bytes : Bytes) :
    Except Failure (Json × Bytes) :=
  let (negativeExponent, digits) :=
    match bytes with
    | 0x2b :: rest => (false, rest)
    | 0x2d :: rest => (true, rest)
    | rest => (false, rest)
  match digits with
  | [] => failAt .endInValue []
  | byte :: rest =>
    match digit? byte with
    | none => failAt .invalidNumber rest
    | some digit => readExponentDigits negative significand start negativeExponent digit rest

/-- Reads what may follow the digits of a number with a fraction: an exponent or nothing. -/
def readAfterFraction (negative : Bool) (significand : Nat) (exponent : Int) :
    Bytes → Except Failure (Json × Bytes)
  | [] => readScaled negative significand exponent []
  | byte :: rest =>
    if byte = 0x65 || byte = 0x45 then readExponent negative significand exponent rest
    else readScaled negative significand exponent (byte :: rest)

/-- Reads the digits behind a decimal point; digits that no longer fit the significand are
dropped. -/
def readFraction (negative : Bool) (start : Int) :
    (significand places : Nat) → Bytes → Except Failure (Json × Bytes)
  | _, 0, [] => failAt .endInValue []
  | significand, places + 1, [] => readAfterFraction negative significand (start - (places + 1)) []
  | significand, places, byte :: rest =>
    match digit? byte with
    | some digit =>
      if significand * 10 + digit ≤ greatestSignificand then
        readFraction negative start (significand * 10 + digit) (places + 1) rest
      else
        readAfterFraction negative significand (start - places)
          (rest.dropWhile fun byte => (digit? byte).isSome)
    | none =>
      if places = 0 then failAt .invalidNumber rest
      else readAfterFraction negative significand (start - places) (byte :: rest)

/-- Reads the digits of a whole part that no longer fits the significand, and what follows it. -/
def readLongWhole (negative : Bool) (significand : Nat) :
    (dropped : Nat) → Bytes → Except Failure (Json × Bytes)
  | dropped, [] => readScaled negative significand dropped []
  | dropped, byte :: rest =>
    if (digit? byte).isSome then readLongWhole negative significand (dropped + 1) rest
    else if byte = 0x2e then readFraction negative dropped significand 0 rest
    else readAfterFraction negative significand dropped (byte :: rest)

/-- A whole number; zero with a sign and negative numbers beyond 64 bits are floating-point
numbers. -/
def wholeNumber (negative : Bool) (significand : Nat) : Json :=
  if !negative then .number (.whole significand)
  else if 0 < significand && significand ≤ Nat.pow 2 63 then .number (.whole (-significand))
  else signed true ((Binary64.ofQuotient false significand 1).getD (.zero false))

/-- Reads what may follow the digits of a whole part. -/
def readAfterWhole (negative : Bool) (significand : Nat) : Bytes → Except Failure (Json × Bytes)
  | [] => .ok (wholeNumber negative significand, [])
  | byte :: rest =>
    if byte = 0x2e then readFraction negative 0 significand 0 rest
    else if byte = 0x65 || byte = 0x45 then readExponent negative significand 0 rest
    else .ok (wholeNumber negative significand, byte :: rest)

/-- Reads the further digits of a whole part. -/
def readWhole (negative : Bool) : (significand : Nat) → Bytes → Except Failure (Json × Bytes)
  | significand, [] => readAfterWhole negative significand []
  | significand, byte :: rest =>
    match digit? byte with
    | none => readAfterWhole negative significand (byte :: rest)
    | some digit =>
      if significand * 10 + digit ≤ greatestSignificand then
        readWhole negative (significand * 10 + digit) rest
      else readLongWhole negative significand 1 rest

/-- Reads a number behind its sign; a whole part of several digits does not start with zero. -/
def readNumber (negative : Bool) : Bytes → Except Failure (Json × Bytes)
  | [] => failAt .endInValue []
  | byte :: rest =>
    match digit? byte with
    | none => failAt .invalidNumber rest
    | some 0 =>
      if (rest.head?.bind digit?).isSome then failAtNext .invalidNumber rest
      else readAfterWhole negative 0 rest
    | some digit => readWhole negative digit rest

/-! ### Strings -/

/-- Reads four hexadecimal digits. -/
def readHex : Bytes → Except Failure (Nat × Bytes)
  | first :: second :: third :: fourth :: rest =>
    match hexDigit? first, hexDigit? second, hexDigit? third, hexDigit? fourth with
    | some first, some second, some third, some fourth =>
      .ok (((first * 16 + second) * 16 + third) * 16 + fourth, rest)
    | _, _, _, _ => failAt .invalidEscape rest
  | _ => failAt .endInString []

/-- Reads one byte of the escape that must follow a high surrogate. -/
def expectSurrogate (expected : UInt8) : Bytes → Except Failure (Unit × Bytes)
  | [] => failAt .endInString []
  | byte :: rest => if byte = expected then .ok ((), rest) else failAt .unfinishedSurrogate rest

/-- Reads the code point of an escape behind its letter; surrogates come in pairs. -/
def readCodePoint (bytes : Bytes) : Except Failure (Char × Bytes) := do
  let (high, rest) ← readHex bytes
  if 0xdc00 ≤ high && high ≤ 0xdfff then failAt .loneSurrogate rest
  else if high < 0xd800 || 0xdbff < high then return (Char.ofNat high, rest)
  else
    let ((), rest) ← expectSurrogate 0x5c rest
    let ((), rest) ← expectSurrogate 0x75 rest
    let (low, rest) ← readHex rest
    if low < 0xdc00 || 0xdfff < low then failAt .loneSurrogate rest
    else return (Char.ofNat (0x10000 + (high - 0xd800) * 0x400 + (low - 0xdc00)), rest)

/-- Reads an escape behind its backslash. -/
def readEscape : Bytes → Except Failure (Char × Bytes)
  | [] => failAt .endInString []
  | byte :: rest =>
    if byte = 0x22 then .ok ('"', rest)
    else if byte = 0x5c then .ok ('\\', rest)
    else if byte = 0x2f then .ok ('/', rest)
    else if byte = 0x62 then .ok ('\x08', rest)
    else if byte = 0x66 then .ok ('\x0c', rest)
    else if byte = 0x6e then .ok ('\n', rest)
    else if byte = 0x72 then .ok ('\r', rest)
    else if byte = 0x74 then .ok ('\t', rest)
    else if byte = 0x75 then readCodePoint rest
    else failAt .invalidEscape rest

/-- Reads the characters of a string up to its closing quote. A byte that belongs to no character is
remembered with the bytes after it, and is a fault when the quote is reached. -/
def readCharacters :
    (fuel : Nat) → (read : List Char) → (broken : Option Bytes) → Bytes →
      Except Failure (String × Bytes)
  | 0, _, _, rest => failAt .endInString rest
  | _ + 1, _, _, [] => failAt .endInString []
  | fuel + 1, read, broken, byte :: rest =>
    if byte = 0x22 then
      match broken with
      | some place => failAt .invalidCodePoint place
      | none => .ok (String.ofList read.reverse, rest)
    else if byte = 0x5c then do
      let (character, rest) ← readEscape rest
      readCharacters fuel (character :: read) broken rest
    else if byte < 0x20 then failAt .controlCharacter rest
    else
      match Text.takeCharacter? (byte :: rest) with
      | some (character, rest) => readCharacters fuel (character :: read) broken rest
      | none => readCharacters fuel read (broken.or (some rest)) rest

/-- Reads a string behind its opening quote. -/
def readString (bytes : Bytes) :
    Except Failure (String × Bytes) := readCharacters (bytes.length + 1) [] none bytes

/-! ### Arrays and objects -/

/-- Reads the items of an array behind the first, each after a comma, up to the closing bracket. -/
def readItems (readItem : Bytes → Except Failure (Json × Bytes)) :
    (fuel : Nat) → (read : List Json) → Bytes → Except Failure (Json × Bytes)
  | 0, _, rest => failAt .endInList rest
  | fuel + 1, read, bytes =>
    match skipBlanks bytes with
    | [] => failAt .endInList []
    | byte :: rest =>
      if byte = 0x5d then .ok (.array read.reverse, rest)
      else if byte = 0x2c then
        match skipBlanks rest with
        | [] => failAt .endInValue []
        | byte :: rest =>
          if byte = 0x5d then failAt .trailingComma rest
          else do
            let (item, rest) ← readItem (byte :: rest)
            readItems readItem fuel (item :: read) rest
      else failAt .expectedListEnd rest

/-- Reads an array behind its opening bracket. -/
def readArray (readItem : Bytes → Except Failure (Json × Bytes)) (bytes : Bytes) :
    Except Failure (Json × Bytes) :=
  match skipBlanks bytes with
  | [] => failAt .endInList []
  | byte :: rest =>
    if byte = 0x5d then .ok (.array [], rest)
    else do
      let (item, rest) ← readItem (byte :: rest)
      readItems readItem bytes.length [item] rest

/-- Reads a member behind the opening quote of its key. -/
def readMember (readItem : Bytes → Except Failure (Json × Bytes)) (bytes : Bytes) :
    Except Failure ((String × Json) × Bytes) := do
  let (key, rest) ← readString bytes
  match skipBlanks rest with
  | [] => failAt .endInObject []
  | byte :: rest =>
    if byte = 0x3a then
      let (value, rest) ← readItem rest
      return ((key, value), rest)
    else failAt .expectedColon rest

/-- Reads the members of an object behind the first, each after a comma, up to the closing brace. -/
def readMembers (readItem : Bytes → Except Failure (Json × Bytes)) :
    (fuel : Nat) → (read : List (String × Json)) → Bytes → Except Failure (Json × Bytes)
  | 0, _, rest => failAt .endInObject rest
  | fuel + 1, read, bytes =>
    match skipBlanks bytes with
    | [] => failAt .endInObject []
    | byte :: rest =>
      if byte = 0x7d then .ok (.object read, rest)
      else if byte = 0x2c then
        match skipBlanks rest with
        | [] => failAt .endInValue []
        | byte :: rest =>
          if byte = 0x22 then do
            let ((key, value), rest) ← readMember readItem rest
            readMembers readItem fuel (insertMember key value read) rest
          else if byte = 0x7d then failAt .trailingComma rest
          else failAt .keyNotString rest
      else failAt .expectedObjectEnd rest

/-- Reads an object behind its opening brace. -/
def readObject (readItem : Bytes → Except Failure (Json × Bytes)) (bytes : Bytes) :
    Except Failure (Json × Bytes) :=
  match skipBlanks bytes with
  | [] => failAt .endInObject []
  | byte :: rest =>
    if byte = 0x7d then .ok (.object [], rest)
    else if byte = 0x22 then do
      let ((key, value), rest) ← readMember readItem rest
      readMembers readItem bytes.length [(key, value)] rest
    else failAt .keyNotString rest

/-- Reads a value that is neither an array nor an object. -/
def readScalar (byte : UInt8) (rest : Bytes) : Except Failure (Json × Bytes) :=
  if byte = 0x6e then readLiteral .null [0x75, 0x6c, 0x6c] rest
  else if byte = 0x74 then readLiteral (.bool true) [0x72, 0x75, 0x65] rest
  else if byte = 0x66 then readLiteral (.bool false) [0x61, 0x6c, 0x73, 0x65] rest
  else if byte = 0x2d then readNumber true rest
  else if (digit? byte).isSome then readNumber false (byte :: rest)
  else if byte = 0x22 then do
    let (text, rest) ← readString rest
    return (.string text, rest)
  else failAt .expectedValue rest

/-- Reads a value with at most `depth` arrays and objects inside each other. -/
def readValue : (depth : Nat) → Bytes → Except Failure (Json × Bytes)
  | depth, bytes =>
    match skipBlanks bytes with
    | [] => failAt .endInValue []
    | byte :: rest =>
      if byte = 0x5b then
        match depth with
        | 0 => failAt .tooDeep rest
        | depth + 1 => readArray (readValue depth) rest
      else if byte = 0x7b then
        match depth with
        | 0 => failAt .tooDeep rest
        | depth + 1 => readObject (readValue depth) rest
      else readScalar byte rest

/-- The greatest number of arrays and objects inside each other. -/
def greatestDepth : Nat := 127

/-- Reads a whole document; only blanks may follow it. -/
def readDocument (bytes : Bytes) : Except Failure Json := do
  let (value, rest) ← readValue greatestDepth bytes
  match skipBlanks rest with
  | [] => return value
  | _ :: rest => failAt .trailingCharacters rest

/-- The line, counted from one, and the bytes on that line before the end of the bytes. -/
def position (bytes : Bytes) : Nat × Nat :=
  (1 + bytes.count 0x0a, (bytes.reverse.takeWhile (· ≠ 0x0a)).length)

/-- Why bytes are no document, and where. -/
structure ReadError where
  fault : Fault
  line : Nat
  column : Nat
  deriving DecidableEq, Repr

/-- The text of a reading error. -/
def ReadError.message (error : ReadError) : String :=
  error.fault.message ++ " at line " ++ Number.wholeText error.line ++ " column " ++
    Number.wholeText error.column

/-- The document that bytes hold. -/
def ofBytes (bytes : Bytes) : Except ReadError Json :=
  match readDocument bytes with
  | .ok json => .ok json
  | .error failure =>
    let (line, column) := position (bytes.take (bytes.length - failure.rest.length))
    .error ⟨failure.fault, line, column⟩

/-- The document that a text holds. -/
def ofText (text : String) : Except ReadError Json := ofBytes (Text.encode text)

end GatewayCheck.Json
