import GatewayCheck.Json.Basic

/-!
The text of a document, on one line without blanks or on several lines with an indentation of two.
-/
namespace GatewayCheck.Json

/-- A digit of a hexadecimal number in lower case. -/
def hexDigit (digit : Nat) : Char := Nat.digitChar digit

/-- The form of one character inside a string: quotes, backslashes and controls are escaped. -/
def escaped (character : Char) : List Char :=
  if character = '"' then ['\\', '"']
  else if character = '\\' then ['\\', '\\']
  else if character = '\x08' then ['\\', 'b']
  else if character = '\x0c' then ['\\', 'f']
  else if character = '\n' then ['\\', 'n']
  else if character = '\r' then ['\\', 'r']
  else if character = '\t' then ['\\', 't']
  else if character.toNat < 0x20 then
    ['\\', 'u', '0', '0', hexDigit (character.toNat / 16), hexDigit (character.toNat % 16)]
  else [character]

/-- The form of a string: its characters between quotes. -/
def stringForm (text : String) : List Char := '"' :: text.toList.flatMap escaped ++ ['"']

mutual

/-- The characters of a document on one line. -/
def compactForm : Json → List Char
  | null => "null".toList
  | bool true => "true".toList
  | bool false => "false".toList
  | number value => value.text.toList
  | string text => stringForm text
  | array items => '[' :: compactItems items
  | object members => '\x7b' :: compactMembers members
termination_by structural json => json

/-- The items of an array on one line, with the closing bracket. -/
def compactItems : List Json → List Char
  | [] => [']']
  | item :: rest => compactForm item ++ if rest.isEmpty then [']'] else ',' :: compactItems rest
termination_by structural items => items

/-- The members of an object on one line, with the closing brace. -/
def compactMembers : List (String × Json) → List Char
  | [] => ['\x7d']
  | (key, value) :: rest =>
    stringForm key ++ ':' :: compactForm value ++
      if rest.isEmpty then ['\x7d'] else ',' :: compactMembers rest
termination_by structural members => members

end

/-- The text of a document on one line. -/
def compact (json : Json) : String := String.ofList json.compactForm

/-- The start of a line at a level of indentation. -/
def newLine (level : Nat) : List Char := '\n' :: List.replicate (2 * level) ' '

mutual

/-- The characters of a document on several lines; empty arrays and objects stay on one line. -/
def prettyForm (level : Nat) : Json → List Char
  | array [] => ['[', ']']
  | object [] => ['\x7b', '\x7d']
  | array items => '[' :: prettyItems level items
  | object members => '\x7b' :: prettyMembers level members
  | null => "null".toList
  | bool true => "true".toList
  | bool false => "false".toList
  | number value => value.text.toList
  | string text => stringForm text
termination_by structural json => json

/-- The items of an array, each on a line of its own, with the closing bracket. -/
def prettyItems (level : Nat) : List Json → List Char
  | [] => newLine level ++ [']']
  | item :: rest =>
    newLine (level + 1) ++ prettyForm (level + 1) item ++
      if rest.isEmpty then newLine level ++ [']'] else ',' :: prettyItems level rest
termination_by structural items => items

/-- The members of an object, each on a line of its own, with the closing brace. -/
def prettyMembers (level : Nat) : List (String × Json) → List Char
  | [] => newLine level ++ ['\x7d']
  | (key, value) :: rest =>
    newLine (level + 1) ++ stringForm key ++ ':' :: ' ' :: prettyForm (level + 1) value ++
      if rest.isEmpty then newLine level ++ ['\x7d'] else ',' :: prettyMembers level rest
termination_by structural members => members

end

/-- The text of a document on several lines. -/
def pretty (json : Json) : String := String.ofList (json.prettyForm 0)

end GatewayCheck.Json
