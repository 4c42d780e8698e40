/-!
White space: the characters with that property, of all scripts.
-/
namespace GatewayCheck.Text

/-- A character that is white space. -/
def isWhiteSpace (character : Char) : Bool :=
  let code := character.toNat
  (0x09 ≤ code && code ≤ 0x0d) || code == 0x20 || code == 0x85 || code == 0xa0 || code == 0x1680 ||
    (0x2000 ≤ code && code ≤ 0x200a) || code == 0x2028 || code == 0x2029 || code == 0x202f ||
    code == 0x205f || code == 0x3000

/-- A text of nothing but white space. -/
def isBlank (characters : List Char) : Bool := characters.all isWhiteSpace

end GatewayCheck.Text
