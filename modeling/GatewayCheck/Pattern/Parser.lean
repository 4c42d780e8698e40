import GatewayCheck.Pattern.Basic

/-!
Reading patterns. Each reader returns what it read and the characters after it, or nothing when the
text is no pattern.
-/
namespace GatewayCheck.Pattern

/-- The set of one character. -/
def single (value : Char) : CharacterSet := ⟨false, [(value, value)]⟩

/-- The decimal digits. -/
def digits : List (Char × Char) := [('0', '9')]

/-- The letters, the digits and the underscore. -/
def wordCharacters : List (Char × Char) := [('0', '9'), ('A', 'Z'), ('_', '_'), ('a', 'z')]

/-- The blanks, of every script. -/
def blanks : List (Char × Char) :=
  [('\t', '\r'), (' ', ' '), ('\u00a0', '\u00a0'), ('\u1680', '\u1680'), ('\u2000', '\u200a'),
    ('\u2028', '\u2029'), ('\u202f', '\u202f'), ('\u205f', '\u205f'), ('\u3000', '\u3000'),
    ('\ufeff', '\ufeff')]

/-- The ranges between the given ones, which are in increasing order. -/
def complement : (start : Nat) → List (Char × Char) → List (Char × Char)
  | start, [] => [(Char.ofNat start, Char.ofNat 0x10ffff)]
  | start, (low, high) :: rest =>
    if start < low.toNat then
      (Char.ofNat start, Char.ofNat (low.toNat - 1)) :: complement (high.toNat + 1) rest
    else complement (high.toNat + 1) rest

/-- The ranges named by a letter behind a backslash. -/
def classRanges? (letter : Char) : Option (List (Char × Char)) :=
  match letter with
  | 'd' => some digits
  | 'D' => some (complement 0 digits)
  | 'w' => some wordCharacters
  | 'W' => some (complement 0 wordCharacters)
  | 's' => some blanks
  | 'S' => some (complement 0 blanks)
  | _ => none

/-- The character written by a backslash and the given character. -/
def escapedCharacter? (character : Char) : Option Char :=
  match character with
  | 'n' => some '\n'
  | 'r' => some '\r'
  | 't' => some '\t'
  | 'f' => some '\x0c'
  | 'v' => some '\x0b'
  | _ => if character.toNat < 0x80 && !character.isAlphanum then some character else none

/-- Reads one member of a set, with a flag that says whether it may begin a range. -/
def readMember : List Char → Option ((List (Char × Char) × Bool) × List Char)
  | '\\' :: letter :: rest =>
    match classRanges? letter with
    | some ranges => some ((ranges, false), rest)
    | none => (escapedCharacter? letter).map fun value => (([(value, value)], true), rest)
  | '\\' :: [] => none
  | value :: rest => some (([(value, value)], true), rest)
  | [] => none

/-- Reads the members of a set up to its closing bracket. -/
def readMembers : (fuel : Nat) → List Char → Option (List (Char × Char) × List Char)
  | 0, _ => none
  | _ + 1, ']' :: rest => some ([], rest)
  | fuel + 1, characters => do
    let ((ranges, begins), rest) ← readMember characters
    match begins, ranges, rest with
    | true, [(low, _)], '-' :: next :: after =>
      if next = ']' then
        let (others, rest) ← readMembers fuel rest
        return (ranges ++ others, rest)
      else
        let ((upper, ends), rest) ← readMember (next :: after)
        match ends, upper with
        | true, [(high, _)] =>
          if high < low then none
          else
            let (others, rest) ← readMembers fuel rest
            return ((low, high) :: others, rest)
        | _, _ => none
    | _, _, _ =>
      let (others, rest) ← readMembers fuel rest
      return (ranges ++ others, rest)

/-- Reads a set behind its opening bracket; a set has at least one member. -/
def readSet (characters : List Char) : Option (Pattern × List Char) := do
  let (negated, members) :=
    match characters with
    | '^' :: rest => (true, rest)
    | rest => (false, rest)
  if members.head? = some ']' then none
  else
    let (ranges, rest) ← readMembers (members.length + 1) members
    return (character ⟨negated, ranges⟩, rest)

/-- Reads a decimal number of at least one digit. -/
def readNumber (characters : List Char) : Option (Nat × List Char) :=
  let digits := characters.takeWhile Char.isDigit
  if digits.isEmpty then none
  else
    some (digits.foldl (fun value digit => value * 10 + (digit.toNat - '0'.toNat)) 0,
      characters.dropWhile Char.isDigit)

/-- Reads the bounds of a repetition behind the opening brace. -/
def readBounds (characters : List Char) : Option ((Nat × Option Nat) × List Char) := do
  let (least, rest) ← readNumber characters
  match rest with
  | '\x7d' :: rest => return ((least, some least), rest)
  | ',' :: '\x7d' :: rest => return ((least, none), rest)
  | ',' :: rest =>
    let (most, rest) ← readNumber rest
    match rest with
    | '\x7d' :: rest => if least ≤ most then some ((least, some most), rest) else none
    | _ => none
  | _ => none

/-- Drops the mark that makes a repetition prefer fewer rounds, which changes no answer. -/
def skipPreference : List Char → List Char
  | '?' :: rest => rest
  | rest => rest

/-- Reads the repetition behind a part of a pattern, when there is one. -/
def readRepetition (inner : Pattern) : List Char → Option (Pattern × List Char)
  | '?' :: rest => some (repeated inner 0 (some 1), skipPreference rest)
  | '*' :: rest => some (repeated inner 0 none, skipPreference rest)
  | '+' :: rest => some (repeated inner 1 none, skipPreference rest)
  | '\x7b' :: rest => do
    let ((least, most), rest) ← readBounds rest
    return (repeated inner least most, skipPreference rest)
  | rest => some (inner, rest)

/-- Reads an escape behind its backslash. -/
def readEscape : List Char → Option (Pattern × List Char)
  | [] => none
  | letter :: rest =>
    match classRanges? letter with
    | some ranges => some (character ⟨false, ranges⟩, rest)
    | none => (escapedCharacter? letter).map fun value => (character (single value), rest)

mutual

/-- Reads alternatives up to the end of the text or a closing parenthesis. -/
def readChoice : (fuel : Nat) → List Char → Option (Pattern × List Char)
  | 0, _ => none
  | fuel + 1, characters => do
    let (first, rest) ← readSequence fuel characters
    match rest with
    | '|' :: rest =>
      let (second, rest) ← readChoice fuel rest
      return (choice first second, rest)
    | rest => return (first, rest)

/-- Reads the parts of one alternative. -/
def readSequence : (fuel : Nat) → List Char → Option (Pattern × List Char)
  | 0, _ => none
  | _ + 1, [] => some (empty, [])
  | fuel + 1, next :: rest =>
    if next = '|' || next = ')' then some (empty, next :: rest)
    else do
      let (part, rest) ← readPart fuel (next :: rest)
      let (part, rest) ← readRepetition part rest
      let (others, rest) ← readSequence fuel rest
      return (if others = empty then part else sequence part others, rest)

/-- Reads one part: an anchor, a group, a set, an escape or a character. -/
def readPart : (fuel : Nat) → List Char → Option (Pattern × List Char)
  | 0, _ => none
  | _ + 1, [] => none
  | fuel + 1, next :: rest =>
    match next with
    | '^' => some (atStart, rest)
    | '$' => some (atEnd, rest)
    | '.' => some (character ⟨true, [('\n', '\n')]⟩, rest)
    | '[' => readSet rest
    | '\\' => readEscape rest
    | '(' => do
      let inside ←
        match rest with
        | '?' :: ':' :: rest => some rest
        | '?' :: _ => none
        | rest => some rest
      let (inner, rest) ← readChoice fuel inside
      match rest with
      | ')' :: rest => return (inner, rest)
      | _ => none
    | '*' | '+' | '?' | '\x7b' => none
    | value => some (character (single value), rest)

end

/-- The pattern that a text writes. -/
def ofText? (text : String) : Option Pattern := do
  let characters := text.toList
  let (pattern, rest) ← readChoice (3 * characters.length + 3) characters
  match rest with
  | [] => return pattern
  | _ => none

end GatewayCheck.Pattern
