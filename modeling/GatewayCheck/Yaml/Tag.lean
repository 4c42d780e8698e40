import GatewayCheck.Yaml.Scalar

/-!
Tags of nodes. In a document a tag is a handle with a suffix, and a directive gives the address that
a handle stands for.
-/
namespace GatewayCheck.Yaml

/-- A tag, by what it says about a node. -/
inductive Tag where
  | own (name : String)
  | null
  | boolean
  | whole
  | floating
  | foreign
  deriving DecidableEq, Repr

namespace Tag

/-- A document's own tag. -/
def isOwn : Tag → Bool
  | own _ => true
  | _ => false

/-- The address under which the common tags stand. -/
def commonAddress : String := "tag:yaml.org,2002:"

/-- The tags that say how a scalar is read. -/
def ofScalars : List (String × Tag) :=
  [(commonAddress ++ "null", null), (commonAddress ++ "bool", boolean),
    (commonAddress ++ "int", whole), (commonAddress ++ "float", floating)]

/-- The tag with a full name. One that starts with an exclamation mark is the document's own, and
says nothing if the rest of it is no text. -/
def ofBytes? : Bytes → Option Tag
  | [] => none
  | first :: rest =>
    if first = 0x21 then (Text.decode? rest).map fun name => own (String.ofList name)
    else
      let name? := (Text.decode? (first :: rest)).map String.ofList
      some ((name?.bind fun name => ofScalars.lookup name).getD foreign)

end Tag

/-! ### Addresses -/

/-- The characters of an address; lists are separated only where it has an end of its own. -/
def isAddressCharacter (isEnclosed : Bool) (character : Char) : Bool :=
  isNameCharacter character || ";/?:@&=+$.!~*'()".toList.contains character ||
    (isEnclosed && ",[]".toList.contains character)

/-- How many bytes follow the first byte of a character. -/
def followers? (byte : Nat) : Option Nat :=
  if byte < 0x80 then some 0
  else if 0xc0 ≤ byte && byte < 0xe0 then some 1
  else if 0xe0 ≤ byte && byte < 0xf0 then some 2
  else if 0xf0 ≤ byte && byte < 0xf8 then some 3
  else none

/-- The number of bytes that are still due after a byte, when `due` bytes of a character are due. -/
def dueAfter? (due byte : Nat) : Option Nat :=
  if due = 0 then followers? byte
  else if 0x80 ≤ byte && byte < 0xc0 then some (due - 1)
  else none

/-- Reads the bytes of an address. A byte can be written as a percent sign and two digits, and then
all bytes of a character are. -/
def readAddress (isEnclosed : Bool) (due : Nat) : List Char → Option (Bytes × List Char)
  | '%' :: high :: low :: rest => do
    let byte := 16 * (← hexDigit? high) + (← hexDigit? low)
    let due ← dueAfter? due byte
    let (bytes, rest) ← readAddress isEnclosed due rest
    return (UInt8.ofNat byte :: bytes, rest)
  | [] => if due = 0 then some ([], []) else none
  | character :: rest =>
    if due ≠ 0 || character = '%' then none
    else if isAddressCharacter isEnclosed character then do
      let (bytes, rest) ← readAddress isEnclosed 0 rest
      return (UInt8.ofNat character.toNat :: bytes, rest)
    else some ([], character :: rest)

/-- Reads an address that is not empty. -/
def readSomeAddress (isEnclosed : Bool) (characters : List Char) : Option (Bytes × List Char) := do
  let (bytes, rest) ← readAddress isEnclosed 0 characters
  if bytes.isEmpty then none else some (bytes, rest)

/-! ### Tags in a document -/

/-- The handle that stands for nothing. -/
def noHandle : String := ""

/-- The handle of a document's own tags. -/
def ownHandle : String := "!"

/-- The handle of the common tags. -/
def commonHandle : String := "!!"

/-- The addresses of the handles that need no directive. -/
def knownHandles : List (String × Bytes) :=
  [(noHandle, []), (ownHandle, Text.encode "!"), (commonHandle, Text.encode Tag.commonAddress)]

/-- Reads a tag: a handle and a suffix. A lone exclamation mark is a suffix. -/
def readTag : List Char → Option (String × Bytes × List Char)
  | '!' :: '<' :: rest => do
    match ← readSomeAddress true rest with
    | (address, '>' :: rest) => some (noHandle, address, rest)
    | _ => none
  | '!' :: rest => do
    let name := rest.takeWhile isNameCharacter
    match rest.drop name.length with
    | '!' :: rest =>
      let (suffix, rest) ← readSomeAddress false rest
      some (String.ofList ('!' :: name ++ ['!']), suffix, rest)
    | _ =>
      let (suffix, rest) ← readAddress false 0 rest
      if suffix.isEmpty then some (noHandle, Text.encode "!", rest)
      else some (ownHandle, suffix, rest)
  | _ => none

/-! ### Directives -/

/-- A directive: the version of the format, or the address of a handle. -/
inductive Directive where
  | version (major minor : Nat)
  | handle (name : String) (address : Bytes)
  deriving DecidableEq, Repr

/-- Reads a number of at most nine digits. -/
def readShortNumber (characters : List Char) : Option (Nat × List Char) :=
  let digits := characters.takeWhile Char.isDigit
  if digits.isEmpty || 9 < digits.length then none
  else
    some (digits.foldl (fun value digit => value * 10 + (digit.toNat - '0'.toNat)) 0,
      characters.drop digits.length)

/-- Reads the handle of a directive, which ends with an exclamation mark. -/
def readHandle : List Char → Option (String × List Char)
  | '!' :: rest =>
    let name := rest.takeWhile isNameCharacter
    match rest.drop name.length with
    | '!' :: rest => some (String.ofList ('!' :: name ++ ['!']), rest)
    | rest => if name.isEmpty then some (ownHandle, rest) else none
  | _ => none

/-- Reads a directive behind its percent sign. -/
def readDirective (characters : List Char) : Option (Directive × List Char) := do
  let name := characters.takeWhile isNameCharacter
  let rest := characters.drop name.length
  if !isGapNext rest then none
  else
    let rest := rest.dropWhile isBlank
    match String.ofList name with
    | "YAML" =>
      match ← readShortNumber rest with
      | (major, '.' :: rest) =>
        let (minor, rest) ← readShortNumber rest
        some (.version major minor, rest)
      | _ => none
    | "TAG" =>
      let (handle, rest) ← readHandle rest
      if !rest.head?.any isBlank then none
      else
        let (address, rest) ← readSomeAddress true (rest.dropWhile isBlank)
        if isGapNext rest then some (.handle handle address, rest) else none
    | _ => none

end GatewayCheck.Yaml
