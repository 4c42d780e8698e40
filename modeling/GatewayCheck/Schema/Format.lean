import GatewayCheck.Pattern.Parser

/-!
Formats of text: patterns, and addresses with or without a scheme.
-/
namespace GatewayCheck.Schema

/-- The formats that a schema can ask for. -/
inductive Format where
  | regex
  | uri
  | uriReference
  deriving DecidableEq, Repr

namespace Format

/-- Every format. -/
def all : List Format := [regex, uri, uriReference]

/-- The name of a format. -/
def name : Format → String
  | regex => "regex"
  | uri => "uri"
  | uriReference => "uri-reference"

/-- The format with the given name. -/
def ofName? (text : String) : Option Format := all.find? fun format => format.name = text

/-- The marks that stand in an address beside letters and digits. -/
def addressMarks : List Char := "-._~:/?#[]@!$&'()*+,;=".toList

/-- A digit of a hexadecimal number. -/
def isHexDigit (character : Char) : Bool :=
  character.isDigit || ('a' ≤ character && character ≤ 'f') || ('A' ≤ character && character ≤ 'F')

/-- Every character may stand in an address, and each percent sign begins an encoded byte. -/
def isAddressText : List Char → Bool
  | [] => true
  | '%' :: high :: low :: rest => isHexDigit high && isHexDigit low && isAddressText rest
  | character :: rest =>
    (character.isAlphanum || addressMarks.contains character) && isAddressText rest

/-- The scheme of an address: what stands before a colon in its first segment. -/
def scheme? (characters : List Char) : Option (List Char) :=
  let first := characters.takeWhile fun character =>
    character ≠ '/' && character ≠ '?' && character ≠ '#'
  if first.contains ':' then some (first.takeWhile (· ≠ ':')) else none

/-- A scheme begins with a letter, and letters, digits, plus, minus and dot follow. -/
def isScheme : List Char → Bool
  | [] => false
  | first :: rest =>
    first.isAlpha && rest.all fun character =>
      character.isAlphanum || character = '+' || character = '-' || character = '.'

/-- A text has a format. -/
def includes (format : Format) (text : String) : Bool :=
  let characters := text.toList
  match format with
  | regex => (Pattern.ofText? text).isSome
  | uri =>
    isAddressText characters && characters.count '#' ≤ 1 && (scheme? characters).any isScheme
  | uriReference =>
    isAddressText characters && characters.count '#' ≤ 1 && (scheme? characters).all isScheme

end Format

end GatewayCheck.Schema
