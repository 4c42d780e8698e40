import GatewayCheck.Text.Invisible

/-!
Quoted text: a value shown on one line between double quotes. Quotes, backslashes and the common
controls have short escapes, and every other invisible character is written as its code point.
-/
namespace GatewayCheck.Text

/-- The digits of a number in lower-case hexadecimal, without leading zeros. -/
def hexDigits (number : Nat) : List Char := Nat.toDigits 16 number

/-- The form of one character inside quotes. -/
def quotedCharacter (character : Char) : List Char :=
  if character = '"' then ['\\', '"']
  else if character = '\\' then ['\\', '\\']
  else if character = '\n' then ['\\', 'n']
  else if character = '\r' then ['\\', 'r']
  else if character = '\t' then ['\\', 't']
  else if character = '\x00' then ['\\', '0']
  else if isInvisible character then
    ['\\', 'u', '\x7b'] ++ hexDigits character.toNat ++ ['\x7d']
  else [character]

/-- A text between double quotes, with quotes and invisible characters escaped. -/
def quoted (text : String) : String :=
  String.ofList ('"' :: text.toList.flatMap quotedCharacter ++ ['"'])

end GatewayCheck.Text
