import GatewayCheck.Text.Utf8

/-!
Places in a text, with the classes of characters that lines are made of. A carriage return with a
line feed after it is one line break.
-/
namespace GatewayCheck.Yaml

/-- A space or a tab. -/
def isBlank (character : Char) : Bool := character = ' ' || character = '\t'

/-- The end of a line, of any kind. -/
def isBreak (character : Char) : Bool :=
  character = '\n' || character = '\r' || character = '\x85' || character = '\u2028' ||
    character = '\u2029'

/-- A letter, a digit, an underscore or a hyphen. -/
def isNameCharacter (character : Char) : Bool :=
  character.isAlphanum || character = '_' || character = '-'

/-- The characters that may stand in a text: no controls but tabs and line breaks. -/
def isAllowed (character : Char) : Bool :=
  let code := character.toNat
  code == 0x09 || code == 0x0a || code == 0x0d || (0x20 ≤ code && code ≤ 0x7e) || code == 0x85 ||
    (0xa0 ≤ code && code ≤ 0xfffd) || 0x10000 ≤ code

/-- A blank, a line break or the end of the text comes next. -/
def isGapNext : List Char → Bool
  | [] => true
  | character :: _ => isBlank character || isBreak character

/-- A mark of three equal characters comes next, with a gap behind it. -/
def isMarkNext (mark : Char) : List Char → Bool
  | first :: second :: third :: rest =>
    first = mark && second = mark && third = mark && isGapNext rest
  | _ => false

/-- A place in a text: the characters after it, and how many characters, lines and columns precede
it. -/
structure Cursor where
  rest : List Char
  index : Nat
  line : Nat
  column : Nat
  deriving Repr

namespace Cursor

/-- The place behind some characters of the same line. -/
def skip (cursor : Cursor) (count : Nat) : Cursor :=
  { cursor with
    rest := cursor.rest.drop count
    index := cursor.index + count
    column := cursor.column + count }

/-- The place behind the characters of the same line that satisfy a test. -/
def skipWhile (cursor : Cursor) (test : Char → Bool) : Cursor :=
  cursor.skip (cursor.rest.takeWhile test).length

/-- The place behind a line break. -/
def skipBreak (cursor : Cursor) : Cursor :=
  let count :=
    match cursor.rest with
    | '\r' :: '\n' :: _ => 2
    | _ => 1
  { rest := cursor.rest.drop count
    index := cursor.index + count
    line := cursor.line + 1
    column := 0 }

/-- The text of a line break: a line feed, unless it separates lines or paragraphs. -/
def breakText (cursor : Cursor) : List Char :=
  match cursor.rest with
  | '\u2028' :: _ => ['\u2028']
  | '\u2029' :: _ => ['\u2029']
  | _ => ['\n']

/-- The place on the same line where the given rest of the text starts. -/
def skipTo (cursor : Cursor) (rest : List Char) : Cursor :=
  cursor.skip (cursor.rest.length - rest.length)

/-- The next character satisfies a test. -/
def isNext (cursor : Cursor) (test : Char → Bool) : Bool := cursor.rest.head?.any test

/-- A mark that starts or ends a document comes next, at the start of a line. -/
def isAtDocumentMark (cursor : Cursor) : Bool :=
  cursor.column = 0 && (isMarkNext '-' cursor.rest || isMarkNext '.' cursor.rest)

end Cursor

end GatewayCheck.Yaml
