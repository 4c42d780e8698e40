import GatewayCheck.Schema.Basic
import GatewayCheck.Json.Pointer
import GatewayCheck.Text.Utf8

/-!
References between schemas: the target that a reference names, and the value at the place of a
target. A relative address is one as seen from the address of the document that the reference stands
in; a schema that is compiled by itself has an address of its own, which leads back to its root.
-/
namespace GatewayCheck

namespace Schema.Target

/-- The parts of a text before and after the last occurrence of a separator. -/
def splitAtLast (separator : Char) (characters : List Char) : Option (List Char × List Char) :=
  let after := characters.reverse.takeWhile (· ≠ separator)
  if after.length = characters.length then none
  else some (characters.take (characters.length - after.length - 1), after.reverse)

/-- The address under which a schema without a document is known. -/
def ownAddress : String := "json-schema:///"

/-- The scheme and the authority of an address. -/
def origin (address : List Char) : List Char :=
  let scheme := address.takeWhile (· ≠ ':')
  match address.drop scheme.length with
  | ':' :: '/' :: '/' :: rest =>
    scheme ++ "://".toList ++ rest.takeWhile fun character => character ≠ '/' && character ≠ '?'
  | _ => scheme ++ [':']

/-- The segments of a path behind the root. A dot stands for the segment that it follows and two
dots for the one before; at the end, both leave an empty segment. -/
def segments (path : List Char) : List (List Char) :=
  let written := Text.pieces '/' path
  let kept := written.foldl (fun kept segment =>
    if segment = ['.'] then kept
    else if segment = ['.', '.'] then kept.dropLast
    else kept ++ [segment]) []
  if written.getLast?.any fun last => last = ['.'] || last = ['.', '.'] then kept ++ [[]] else kept

/-- The path of an address, without what it asks for. -/
def path (address : List Char) : List Char :=
  (address.drop (origin address).length).takeWhile (· ≠ '?')

/-- A relative path behind the last slash of another path. -/
def pathBehind (before relative : List Char) : List Char :=
  let directory := ((splitAtLast '/' before).elim [] Prod.fst).drop 1
  let whole :=
    if relative.head? = some '/' then relative.drop 1
    else if directory.isEmpty then relative
    else directory ++ '/' :: relative
  '/' :: List.intercalate ['/'] (segments whole)

/-- An address as seen from a document, by the rules for relative addresses. One with a scheme is
taken as it is written. -/
def addressFrom (base : Option String) (address : List Char) : String :=
  if (Format.scheme? address).any Format.isScheme then String.ofList address
  else
    let whole := (base.getD ownAddress).toList
    match address with
    | [] => String.ofList whole
    | '?' :: _ => String.ofList (origin whole ++ path whole ++ address)
    | '/' :: '/' :: _ => String.ofList (whole.takeWhile (· ≠ ':') ++ ':' :: address)
    | _ =>
      let relative := address.takeWhile (· ≠ '?')
      String.ofList (origin whole ++ pathBehind (path whole) relative ++
        address.drop relative.length)

/-- The document with an address; the schema itself has its own. -/
def documentAt (address : String) : Option String :=
  if address = ownAddress then none else some address

/-- The target of a reference made inside a document. -/
def ofReference (base : Option String) (reference : String) : Target :=
  match reference.toList with
  | '#' :: place => ⟨base, String.ofList place⟩
  | characters =>
    let (address, place) := (splitAtLast '#' characters).getD (characters, [])
    ⟨documentAt (addressFrom base address), String.ofList place⟩

end Schema.Target

namespace Json

/-- Decodes the percent signs of an address into bytes. -/
def percentDecoded : List Char → Bytes
  | [] => []
  | '%' :: high :: low :: rest =>
    if Schema.Format.isHexDigit high && Schema.Format.isHexDigit low then
      UInt8.ofNat (hexValue high * 16 + hexValue low) :: percentDecoded rest
    else Text.encode "%" ++ percentDecoded (high :: low :: rest)
  | character :: rest => Text.encode (String.ofList [character]) ++ percentDecoded rest
where
  /-- The value of a hexadecimal digit. -/
  hexValue (digit : Char) : Nat :=
    if digit.isDigit then digit.toNat - '0'.toNat else (digit.toLower.toNat - 'a'.toNat) + 10

/-- Undoes the escapes of a segment of a pointer. -/
def unescaped : List Char → List Char
  | [] => []
  | '~' :: '1' :: rest => '/' :: unescaped rest
  | '~' :: '0' :: rest => '~' :: unescaped rest
  | character :: rest => character :: unescaped rest

/-- The number written by decimal digits. -/
def indexOf? (characters : List Char) : Option Nat :=
  if characters.isEmpty || !characters.all Char.isDigit then none
  else some (characters.foldl (fun value digit => value * 10 + (digit.toNat - '0'.toNat)) 0)

/-- One step into an array or an object. -/
def child? (segment : List Char) : Json → Option Json
  | array items => (indexOf? segment).bind fun index => items[index]?
  | json => json.get? (String.ofList (unescaped segment))

/-- The value at a place: the whole document, or what a pointer leads to. -/
def atPlace? (place : String) (json : Json) : Option Json :=
  match place.toList with
  | [] => some json
  | '/' :: pointer => do
    let decoded ← Text.decode? (percentDecoded pointer)
    (Text.pieces '/' decoded).foldlM (fun value segment => value.child? segment) json
  | _ => none

/-- The keywords whose value is a schema or a list of schemas. -/
def schemaKeywords : List String :=
  ["additionalItems", "additionalProperties", "allOf", "anyOf", "contains", "else", "if", "items",
    "not", "oneOf", "propertyNames", "then"]

/-- The keywords whose value is an object of schemas. -/
def schemaMapKeywords : List String :=
  ["definitions", "dependencies", "patternProperties", "properties"]

mutual

/-- The references in a schema and in the schemas inside it. -/
def references : Json → List String
  | array items => referencesInItems items
  | object members => ((object members).get? "$ref").toList.filterMap asString? ++
      referencesInKeywords members
  | _ => []
termination_by structural json => json

/-- The references in a list of schemas. -/
def referencesInItems : List Json → List String
  | [] => []
  | item :: rest => item.references ++ referencesInItems rest
termination_by structural items => items

/-- The references in the schemas that are the values of keywords. -/
def referencesInKeywords : List (String × Json) → List String
  | [] => []
  | (keyword, value) :: rest =>
    (if schemaKeywords.contains keyword then value.references
      else if schemaMapKeywords.contains keyword then value.referencesInMap
      else []) ++ referencesInKeywords rest
termination_by structural members => members

/-- The references in an object of schemas. -/
def referencesInMap : Json → List String
  | object members => referencesInValues members
  | _ => []
termination_by structural json => json

/-- The references in the values of members. -/
def referencesInValues : List (String × Json) → List String
  | [] => []
  | (_, value) :: rest => value.references ++ referencesInValues rest
termination_by structural members => members

end

end Json

end GatewayCheck
