import GatewayCheck.Yaml.Token

/-!
Reading tokens from a text. A key in front of a colon is recognised only at the colon: its mark, and
the start of its block, are put in front of tokens that are already read.
-/
namespace GatewayCheck.Yaml

/-- A place where a key can start that is known only by the colon behind it: the number of the
tokens before it, and whether a colon must follow. -/
structure SimpleKey where
  tokenNumber : Nat
  isRequired : Bool
  start : Cursor
  deriving Repr

/-- A simple key stands on one line and has at most 1024 characters. -/
def SimpleKey.isOver (key : SimpleKey) (cursor : Cursor) : Bool :=
  key.start.line < cursor.line || key.start.index + 1024 < cursor.index

/-- The simple key that is left at a place, or nothing at all when a colon is missing. -/
def SimpleKey.remaining? (cursor : Cursor) : Option SimpleKey → Option (Option SimpleKey)
  | none => some none
  | some key =>
    if !key.isOver cursor then some (some key)
    else if key.isRequired then none
    else some none

/-- A text that is read in part: the tokens, newest first, the columns of the open blocks, innermost
first, the possible keys of the open brackets, and whether a key can start here. -/
structure Lexer where
  cursor : Cursor
  tokens : List Token
  columns : List Nat
  key? : Option SimpleKey
  outerKeys : List (Option SimpleKey)
  allowsKey : Bool
  deriving Repr

namespace Lexer

/-- A text that is not read yet. -/
def start (text : List Char) : Lexer where
  cursor := ⟨text, 0, 0, 0⟩
  tokens := []
  columns := []
  key? := none
  outerKeys := []
  allowsKey := true

/-- The place is inside brackets. -/
def inFlow (lexer : Lexer) : Bool := !lexer.outerKeys.isEmpty

/-- Adds a token behind the first `number` ones. -/
def insert (lexer : Lexer) (number : Nat) (token : Token) : Lexer :=
  let later := lexer.tokens.length - number
  { lexer with tokens := lexer.tokens.take later ++ token :: lexer.tokens.drop later }

/-- Adds a token at the end and goes on at another place. -/
def emit (lexer : Lexer) (token : Token) (cursor : Cursor) : Lexer :=
  { lexer with cursor, tokens := token :: lexer.tokens }

/-- Skips blanks, comments and line breaks. A key can start on a new line outside brackets. -/
def skipToToken : (fuel : Nat) → Lexer → Lexer
  | 0, lexer => lexer
  | fuel + 1, lexer =>
    let allowsTab := lexer.inFlow || !lexer.allowsKey
    let cursor := lexer.cursor
    let isAtOrderMark := cursor.column = 0 && cursor.isNext (· = '\ufeff')
    let cursor := if isAtOrderMark then cursor.skip 1 else cursor
    let cursor := cursor.skipWhile fun next => next = ' ' || (allowsTab && next = '\t')
    let cursor :=
      if cursor.isNext (· = '#') then cursor.skipWhile fun next => !isBreak next else cursor
    if cursor.isNext isBreak then
      skipToToken fuel
        { lexer with cursor := cursor.skipBreak, allowsKey := lexer.allowsKey || !lexer.inFlow }
    else { lexer with cursor }

/-! ### Keys and blocks -/

/-- Drops the keys that are over. -/
def dropKeys (lexer : Lexer) : Option Lexer := do
  let key? ← SimpleKey.remaining? lexer.cursor lexer.key?
  let outerKeys ← lexer.outerKeys.mapM (SimpleKey.remaining? lexer.cursor)
  return { lexer with key?, outerKeys }

/-- Gives up the possible key, unless a colon must follow it. -/
def removeKey (lexer : Lexer) : Option Lexer :=
  if lexer.key?.any SimpleKey.isRequired then none else some { lexer with key? := none }

/-- Notes that a key can start here. A colon must follow at the column of the block. -/
def saveKey (lexer : Lexer) : Option Lexer :=
  if lexer.allowsKey then do
    let isRequired := !lexer.inFlow && lexer.columns.head? = some lexer.cursor.column
    let key : SimpleKey := ⟨lexer.tokens.length, isRequired, lexer.cursor⟩
    return { ← lexer.removeKey with key? := some key }
  else some lexer

/-- Opens a block at a column that is inside the innermost block. -/
def openBlock (lexer : Lexer) (column number : Nat) (token : Token) : Lexer :=
  if !lexer.inFlow && lexer.columns.head?.all (· < column) then
    { lexer.insert number token with columns := column :: lexer.columns }
  else lexer

/-- Closes the blocks whose columns satisfy a test. -/
def closeBlocks (lexer : Lexer) (isClosed : Nat → Bool) : Lexer :=
  if lexer.inFlow then lexer
  else
    let closed := (lexer.columns.takeWhile isClosed).length
    { lexer with
      tokens := List.replicate closed .blockEnd ++ lexer.tokens
      columns := lexer.columns.drop closed }

/-- Closes all blocks; no key can start before the next line. -/
def closeAll (lexer : Lexer) : Option Lexer := do
  return { ← (lexer.closeBlocks fun _ => true).removeKey with allowsKey := false }

/-! ### Tokens -/

/-- Reads a directive and the rest of its line. -/
def readDirective (lexer : Lexer) : Option Lexer := do
  let lexer ← lexer.closeAll
  let (directive, rest) ← Yaml.readDirective (lexer.cursor.rest.drop 1)
  let cursor ← skipRestOfLine (lexer.cursor.skipTo rest)
  return lexer.emit (.directive directive) cursor

/-- Reads the mark of the start or the end of a document. -/
def readDocumentMark (lexer : Lexer) (token : Token) : Option Lexer := do
  let lexer ← lexer.closeAll
  return lexer.emit token (lexer.cursor.skip 3)

/-- Reads an opening bracket. -/
def readOpening (lexer : Lexer) (token : Token) : Option Lexer := do
  let lexer ← lexer.saveKey
  return { lexer.emit token (lexer.cursor.skip 1) with
    key? := none
    outerKeys := lexer.key? :: lexer.outerKeys
    allowsKey := true }

/-- Reads a closing bracket. -/
def readClosing (lexer : Lexer) (token : Token) : Option Lexer := do
  let lexer ← lexer.removeKey
  return { lexer.emit token (lexer.cursor.skip 1) with
    key? := lexer.outerKeys.head?.join
    outerKeys := lexer.outerKeys.tail
    allowsKey := false }

/-- Reads a comma. -/
def readComma (lexer : Lexer) : Option Lexer := do
  let lexer ← lexer.removeKey
  return { lexer.emit .flowEntry (lexer.cursor.skip 1) with allowsKey := true }

/-- The text with a block opened here; outside brackets this needs a place where a key can start. -/
def openHere (lexer : Lexer) (token : Token) : Option Lexer :=
  if lexer.inFlow || lexer.allowsKey then
    some (lexer.openBlock lexer.cursor.column lexer.tokens.length token)
  else none

/-- Reads the hyphen of an item. -/
def readHyphen (lexer : Lexer) : Option Lexer := do
  let lexer ← (← lexer.openHere .blockSequence).removeKey
  return { lexer.emit .blockEntry (lexer.cursor.skip 1) with allowsKey := true }

/-- Reads the question mark of a key. -/
def readQuestionMark (lexer : Lexer) : Option Lexer := do
  let lexer ← (← lexer.openHere .blockMapping).removeKey
  return { lexer.emit .key (lexer.cursor.skip 1) with allowsKey := !lexer.inFlow }

/-- Reads a colon: behind a simple key, which is marked now, or behind another key or none. -/
def readColon (lexer : Lexer) : Option Lexer := do
  match lexer.key? with
  | some key =>
    let lexer := lexer.insert key.tokenNumber .key
    let lexer := lexer.openBlock key.start.column key.tokenNumber .blockMapping
    return { lexer.emit .value (lexer.cursor.skip 1) with key? := none, allowsKey := false }
  | none =>
    let lexer ← lexer.openHere .blockMapping
    return { lexer.emit .value (lexer.cursor.skip 1) with allowsKey := !lexer.inFlow }

/-- The text behind a token that can be a key, or can start one. -/
def emitInline (lexer : Lexer) (token : Token) (cursor : Cursor) : Option Lexer := do
  return { (← lexer.saveKey).emit token cursor with allowsKey := false }

/-- The marks that can stand behind the name of a node, apart from a gap. -/
def isNameEnd (character : Char) : Bool :=
  character = '?' || character = ':' || character = ',' || character = ']' || character = '\x7d' ||
    character = '%' || character = '@' || character = '\x60'

/-- Reads the name of a node or a reference to it. -/
def readName (lexer : Lexer) (token : String → Token) : Option Lexer :=
  let name := (lexer.cursor.rest.drop 1).takeWhile isNameCharacter
  let cursor := lexer.cursor.skip (name.length + 1)
  if name.isEmpty || !(isGapNext cursor.rest || cursor.isNext isNameEnd) then none
  else lexer.emitInline (token (String.ofList name)) cursor

/-- Reads a tag, which a gap follows, or a comma inside brackets. -/
def readTag (lexer : Lexer) : Option Lexer := do
  let (handle, suffix, rest) ← Yaml.readTag lexer.cursor.rest
  let cursor := lexer.cursor.skipTo rest
  if isGapNext rest || (lexer.inFlow && cursor.isNext (· = ',')) then
    lexer.emitInline (.tag handle suffix) cursor
  else none

/-- Reads a scalar in quotes. -/
def readQuoted (lexer : Lexer) (quote : Char) : Option Lexer := do
  let (text, cursor) ← Yaml.readQuoted quote lexer.cursor
  lexer.emitInline (.scalar false text) cursor

/-- Reads a literal or folded scalar; a key can start behind it. -/
def readBlock (lexer : Lexer) (isFolded : Bool) : Option Lexer := do
  let lexer ← lexer.removeKey
  let (text, cursor) ← Yaml.readBlock isFolded lexer.columns.head? lexer.cursor
  return { lexer.emit (.scalar false text) cursor with allowsKey := true }

/-- Reads a plain scalar; a key can start behind it if a line break follows. -/
def readPlain (lexer : Lexer) : Option Lexer := do
  let leastColumn := (lexer.columns.head?.map (· + 1)).getD 0
  let (text, isBroken, cursor) ← Yaml.readPlain lexer.inFlow leastColumn lexer.cursor
  return { ← lexer.emitInline (.scalar true text) cursor with allowsKey := isBroken }

/-- Reads the next token, which starts here. -/
def readToken (lexer : Lexer) : Option Lexer :=
  let isLineStart := lexer.cursor.column = 0
  match lexer.cursor.rest with
  | [] => none
  | character :: rest =>
    let isMark := lexer.inFlow || isGapNext rest
    if isLineStart && character = '%' then lexer.readDirective
    else if isLineStart && isMarkNext '-' lexer.cursor.rest then
      lexer.readDocumentMark .documentStart
    else if isLineStart && isMarkNext '.' lexer.cursor.rest then
      lexer.readDocumentMark .documentEnd
    else
      match character with
      | '[' => lexer.readOpening .flowSequence
      | '\x7b' => lexer.readOpening .flowMapping
      | ']' => lexer.readClosing .flowSequenceEnd
      | '\x7d' => lexer.readClosing .flowMappingEnd
      | ',' => lexer.readComma
      | '-' => if isGapNext rest then lexer.readHyphen else lexer.readPlain
      | '?' => if isMark then lexer.readQuestionMark else lexer.readPlain
      | ':' => if isMark then lexer.readColon else lexer.readPlain
      | '*' => lexer.readName .reference
      | '&' => lexer.readName .anchor
      | '!' => lexer.readTag
      | '|' => if lexer.inFlow then none else lexer.readBlock false
      | '>' => if lexer.inFlow then none else lexer.readBlock true
      | '"' => lexer.readQuoted '"'
      | '\'' => lexer.readQuoted '\''
      | '#' | '%' | '@' | '\x60' => none
      | _ => if isBlank character then none else lexer.readPlain

/-- Reads the tokens up to the end of the text. -/
def run : (fuel : Nat) → Lexer → Option (List Token)
  | 0, _ => none
  | fuel + 1, lexer => do
    let lexer ← (lexer.skipToToken (lexer.cursor.rest.length + 1)).dropKeys
    let lexer := lexer.closeBlocks (lexer.cursor.column < ·)
    if lexer.cursor.rest.isEmpty then
      let lexer ← lexer.closeAll
      return lexer.tokens.reverse ++ [.textEnd]
    else run fuel (← lexer.readToken)

end Lexer

/-- The tokens of a text, if it has only allowed characters. -/
def Token.ofText? (text : List Char) : Option (List Token) :=
  if text.all isAllowed then (Lexer.start text).run (text.length + 1) else none

end GatewayCheck.Yaml
