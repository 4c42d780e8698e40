import GatewayCheck.Yaml.Cursor

/-!
The texts of scalars in their five styles: plain, in single or double quotes, literal and folded. A
single line break inside a scalar becomes a space, except in the literal style.
-/
namespace GatewayCheck.Yaml

/-- What stands between two runs of text: spaces, or a first line break and the ones after it. -/
structure Gap where
  isBroken : Bool
  spaces : List Char
  first : List Char
  others : List Char
  deriving Repr

namespace Gap

/-- Nothing stands between two runs. -/
def none : Gap := ⟨false, [], [], []⟩

/-- A line break that leaves no text. -/
def escapedBreak : Gap := ⟨true, [], [], []⟩

/-- The text of line breaks: of several, the first is dropped, and a single one is a space. -/
def folded (first others : List Char) : List Char :=
  if first = ['\n'] then (if others.isEmpty then [' '] else others) else first ++ others

/-- The text of a gap. -/
def text (gap : Gap) : List Char :=
  if gap.isBroken then folded gap.first gap.others else gap.spaces

/-- Reads blanks and line breaks. A tab at the start of a line does not stand before the given
column. -/
def read (leastColumn : Nat) : (fuel : Nat) → Gap → Cursor → Option (Gap × Cursor)
  | 0, gap, cursor => some (gap, cursor)
  | fuel + 1, gap, cursor =>
    match cursor.rest with
    | [] => some (gap, cursor)
    | character :: _ =>
      if isBlank character then
        if !gap.isBroken then
          read leastColumn fuel { gap with spaces := gap.spaces ++ [character] } (cursor.skip 1)
        else if character = '\t' && cursor.column < leastColumn then .none
        else read leastColumn fuel gap (cursor.skip 1)
      else if isBreak character then
        let next :=
          if gap.isBroken then { gap with others := gap.others ++ cursor.breakText }
          else ⟨true, [], cursor.breakText, []⟩
        read leastColumn fuel next cursor.skipBreak
      else some (gap, cursor)

end Gap

/-! ### Plain scalars -/

/-- The marks that end a plain scalar inside brackets. -/
def isFlowMark (character : Char) : Bool :=
  character = ',' || character = '[' || character = ']' || character = '\x7b' || character = '\x7d'

/-- Reads the characters of a plain scalar up to a gap, or to a mark that ends it. -/
def readPlainRun (inFlow : Bool) : (characters : List Char) → Option (List Char)
  | [] => some []
  | character :: rest =>
    if isBlank character || isBreak character then some []
    else if inFlow && character = ':' &&
        rest.head?.any (fun next => isFlowMark next || next = '?') then
      none
    else if (character = ':' && isGapNext rest) || (inFlow && isFlowMark character) then some []
    else (readPlainRun inFlow rest).map (character :: ·)

/-- Reads a plain scalar run by run; its further lines do not start before the given column. The gap
behind the last run is returned with the text. -/
def readPlainRuns (inFlow : Bool) (leastColumn : Nat) :
    (fuel : Nat) → (text : List Char) → Gap → Cursor → Option (List Char × Gap × Cursor)
  | 0, text, gap, cursor => some (text, gap, cursor)
  | fuel + 1, text, gap, cursor =>
    if cursor.isAtDocumentMark || cursor.isNext (· = '#') then some (text, gap, cursor)
    else do
      let run ← readPlainRun inFlow cursor.rest
      let (text, gap) := if run.isEmpty then (text, gap) else (text ++ gap.text ++ run, .none)
      let cursor := cursor.skip run.length
      if cursor.isNext (fun next => isBlank next || isBreak next) then
        let (gap, cursor) ← Gap.read leastColumn (cursor.rest.length + 1) .none cursor
        if !inFlow && cursor.column < leastColumn then some (text, gap, cursor)
        else readPlainRuns inFlow leastColumn fuel text gap cursor
      else some (text, gap, cursor)

/-- Reads a plain scalar. The flag says whether a line break follows it. -/
def readPlain (inFlow : Bool) (leastColumn : Nat) (cursor : Cursor) :
    Option (String × Bool × Cursor) := do
  let (text, gap, cursor) ←
    readPlainRuns inFlow leastColumn (cursor.rest.length + 1) [] .none cursor
  return (String.ofList text, gap.isBroken, cursor)

/-! ### Scalars in quotes -/

/-- The value of a hexadecimal digit. -/
def hexDigit? (character : Char) : Option Nat :=
  if character.isDigit then some (character.toNat - '0'.toNat)
  else if 'a' ≤ character && character ≤ 'f' then some (character.toNat - 'a'.toNat + 10)
  else if 'A' ≤ character && character ≤ 'F' then some (character.toNat - 'A'.toNat + 10)
  else none

/-- The character of a code point written in exactly `count` hexadecimal digits. -/
def readCode (count : Nat) (characters : List Char) : Option Char := do
  let digits ← (characters.take count).mapM hexDigit?
  let code := digits.foldl (fun value digit => value * 16 + digit) 0
  if digits.length = count && code.isValidChar then some (Char.ofNat code) else none

/-- Reads the escape behind a backslash: its character and its length. -/
def readEscape : List Char → Option (Char × Nat)
  | [] => none
  | letter :: rest =>
    match letter with
    | '0' => some ('\x00', 1)
    | 'a' => some ('\x07', 1)
    | 'b' => some ('\x08', 1)
    | 't' | '\t' => some ('\t', 1)
    | 'n' => some ('\n', 1)
    | 'v' => some ('\x0b', 1)
    | 'f' => some ('\x0c', 1)
    | 'r' => some ('\r', 1)
    | 'e' => some ('\x1b', 1)
    | ' ' => some (' ', 1)
    | '"' => some ('"', 1)
    | '/' => some ('/', 1)
    | '\\' => some ('\\', 1)
    | 'N' => some ('\x85', 1)
    | '_' => some ('\xa0', 1)
    | 'L' => some ('\u2028', 1)
    | 'P' => some ('\u2029', 1)
    | 'x' => (readCode 2 rest).map (·, 3)
    | 'u' => (readCode 4 rest).map (·, 5)
    | 'U' => (readCode 8 rest).map (·, 9)
    | _ => none

/-- Reads the characters of a scalar in double quotes up to its end or a gap. -/
def readDoubleRun : (fuel : Nat) → (text : List Char) → Cursor → Option (List Char × Gap × Cursor)
  | 0, text, cursor => some (text, .none, cursor)
  | fuel + 1, text, cursor =>
    match cursor.rest with
    | [] => some (text, .none, cursor)
    | character :: rest =>
      if character = '"' || isBlank character || isBreak character then some (text, .none, cursor)
      else if character = '\\' then
        if rest.head?.any isBreak then some (text, .escapedBreak, (cursor.skip 1).skipBreak)
        else do
          let (value, length) ← readEscape rest
          readDoubleRun fuel (text ++ [value]) (cursor.skip (length + 1))
      else readDoubleRun fuel (text ++ [character]) (cursor.skip 1)

/-- Reads the characters of a scalar in single quotes up to its end or a gap; a quote is written
twice. -/
def readSingleRun : (fuel : Nat) → (text : List Char) → Cursor → Option (List Char × Gap × Cursor)
  | 0, text, cursor => some (text, .none, cursor)
  | fuel + 1, text, cursor =>
    match cursor.rest with
    | '\'' :: '\'' :: _ => readSingleRun fuel (text ++ ['\'']) (cursor.skip 2)
    | [] => some (text, .none, cursor)
    | character :: _ =>
      if character = '\'' || isBlank character || isBreak character then some (text, .none, cursor)
      else readSingleRun fuel (text ++ [character]) (cursor.skip 1)

/-- Reads a scalar in quotes run by run, behind its opening quote. -/
def readQuotedRuns (quote : Char) :
    (fuel : Nat) → (text : List Char) → Cursor → Option (String × Cursor)
  | 0, _, _ => none
  | fuel + 1, text, cursor =>
    if cursor.isAtDocumentMark || cursor.rest.isEmpty then none
    else do
      let readRun := if quote = '"' then readDoubleRun else readSingleRun
      let (run, gap, cursor) ← readRun (cursor.rest.length + 1) [] cursor
      if cursor.isNext (· = quote) then
        if gap.isBroken then readQuotedRuns quote fuel (text ++ run) cursor
        else some (String.ofList (text ++ run), cursor.skip 1)
      else
        let (gap, cursor) ← Gap.read 0 (cursor.rest.length + 1) gap cursor
        readQuotedRuns quote fuel (text ++ run ++ gap.text) cursor

/-- Reads a scalar in quotes. -/
def readQuoted (quote : Char) (cursor : Cursor) : Option (String × Cursor) :=
  readQuotedRuns quote (cursor.rest.length + 2) [] (cursor.skip 1)

/-! ### Literal and folded scalars -/

/-- What happens to the line breaks at the end of a block scalar. -/
inductive Chomping where
  | strip
  | clip
  | keep
  deriving DecidableEq, Repr

/-- The head of a block scalar: what happens at its end, and how far it is indented if that is
given. -/
structure BlockHead where
  chomping : Chomping
  increment : Nat
  deriving Repr

/-- The chomping of a sign. -/
def chomping? : Char → Option Chomping
  | '+' => some .keep
  | '-' => some .strip
  | _ => none

/-- The indentation of a digit, which is not zero. -/
def increment? (character : Char) : Option Nat :=
  if '1' ≤ character && character ≤ '9' then some (character.toNat - '0'.toNat) else none

/-- Reads the head of a block scalar: a sign and a digit in any order, or one of them, or none. -/
def readBlockHead : List Char → Option (BlockHead × Nat)
  | first :: second :: _ =>
    match chomping? first, chomping? second, increment? first, increment? second with
    | some chomping, _, _, some increment => some (⟨chomping, increment⟩, 2)
    | some chomping, _, _, none => if second = '0' then none else some (⟨chomping, 0⟩, 1)
    | none, some chomping, some increment, _ => some (⟨chomping, increment⟩, 2)
    | none, none, some increment, _ => some (⟨.clip, increment⟩, 1)
    | none, _, none, _ => if first = '0' then none else some (⟨.clip, 0⟩, 0)
  | [first] =>
    match chomping? first, increment? first with
    | some chomping, _ => some (⟨chomping, 0⟩, 1)
    | none, some increment => some (⟨.clip, increment⟩, 1)
    | none, none => if first = '0' then none else some (⟨.clip, 0⟩, 0)
  | [] => some (⟨.clip, 0⟩, 0)

/-- Skips the rest of a line that holds nothing but blanks and a comment. -/
def skipRestOfLine (cursor : Cursor) : Option Cursor :=
  let cursor := cursor.skipWhile isBlank
  let cursor :=
    if cursor.isNext (· = '#') then cursor.skipWhile fun character => !isBreak character else cursor
  if cursor.rest.isEmpty then some cursor
  else if cursor.isNext isBreak then some cursor.skipBreak
  else none

/-- Reads the empty lines before a line of a block scalar, and the indentation of that line, which
is limited when it is known. The greatest column is returned too. -/
def readBlockBreaks (indentation : Nat) : (fuel : Nat) → (breaks : List Char) → (greatest : Nat) →
    Cursor → Option (List Char × Nat × Cursor)
  | 0, breaks, greatest, cursor => some (breaks, greatest, cursor)
  | fuel + 1, breaks, greatest, cursor =>
    let spaces := (cursor.rest.takeWhile (· = ' ')).length
    let cursor :=
      cursor.skip (if indentation = 0 then spaces else min spaces (indentation - cursor.column))
    let greatest := max greatest cursor.column
    if (indentation = 0 || cursor.column < indentation) && cursor.isNext (· = '\t') then none
    else if cursor.isNext isBreak then
      readBlockBreaks indentation fuel (breaks ++ cursor.breakText) greatest cursor.skipBreak
    else some (breaks, greatest, cursor)

/-- The lines of a block scalar as far as they are read: the text, the break behind the last line,
the breaks of the empty lines after it, and whether the last line starts with a blank. -/
structure BlockLines where
  text : List Char
  last : List Char
  empty : List Char
  startsBlank : Bool

/-- The text with the breaks before the next line. A folded break stands between two lines that do
not start with a blank. -/
def BlockLines.joined (lines : BlockLines) (isFolded startsBlank : Bool) : List Char :=
  if isFolded && lines.last = ['\n'] && !lines.startsBlank && !startsBlank then
    lines.text ++ (if lines.empty.isEmpty then [' '] else []) ++ lines.empty
  else lines.text ++ lines.last ++ lines.empty

/-- Reads the lines of a block scalar with the given indentation. -/
def readBlockLines (isFolded : Bool) (indentation : Nat) :
    (fuel : Nat) → BlockLines → Cursor → Option (BlockLines × Cursor)
  | 0, lines, cursor => some (lines, cursor)
  | fuel + 1, lines, cursor =>
    if cursor.column = indentation && !cursor.rest.isEmpty then do
      let startsBlank := cursor.isNext isBlank
      let line := cursor.rest.takeWhile fun character => !isBreak character
      let text := lines.joined isFolded startsBlank ++ line
      let cursor := cursor.skip line.length
      let last := if cursor.rest.isEmpty then [] else cursor.breakText
      let cursor := if cursor.rest.isEmpty then cursor else cursor.skipBreak
      let (empty, _, cursor) ← readBlockBreaks indentation (cursor.rest.length + 1) [] 0 cursor
      readBlockLines isFolded indentation fuel ⟨text, last, empty, startsBlank⟩ cursor
    else some (lines, cursor)

/-- Reads a block scalar inside a block with the given indentation, which is none at the top. -/
def readBlock (isFolded : Bool) (parent : Option Nat) (cursor : Cursor) :
    Option (String × Cursor) := do
  let (head, length) ← readBlockHead (cursor.rest.drop 1)
  let cursor ← skipRestOfLine (cursor.skip (length + 1))
  let given := if head.increment = 0 then 0 else parent.getD 0 + head.increment
  let (empty, greatest, cursor) ← readBlockBreaks given (cursor.rest.length + 1) [] 0 cursor
  let least := (parent.map (· + 1)).getD 0
  let indentation := if given = 0 then max (max greatest least) 1 else given
  let (lines, cursor) ←
    readBlockLines isFolded indentation (cursor.rest.length + 1) ⟨[], [], empty, false⟩ cursor
  let text :=
    match head.chomping with
    | .strip => lines.text
    | .clip => lines.text ++ lines.last
    | .keep => lines.text ++ lines.last ++ lines.empty
  return (String.ofList text, cursor)

end GatewayCheck.Yaml
