import GatewayCheck.Yaml.Token

/-!
Nodes: the scalars, sequences and mappings of a document. Anchors are numbered, and a reference holds
the number of an anchor.
-/
namespace GatewayCheck.Yaml

/-- A scalar as it was written. -/
structure Scalar where
  tag? : Option Tag
  isPlain : Bool
  text : String
  deriving DecidableEq, Repr

/-- A node of a document. -/
inductive Node where
  | reference (anchor : Nat)
  | scalar (anchor? : Option Nat) (scalar : Scalar)
  | sequence (anchor? : Option Nat) (tag? : Option Tag) (items : List Node)
  | mapping (anchor? : Option Nat) (tag? : Option Tag) (entries : List (Node × Node))
  deriving Repr

namespace Node

/-- The scalar that stands where nothing is written. -/
def empty : Node := scalar none ⟨none, true, ""⟩

/-- The anchor of a node. -/
def anchor? : Node → Option Nat
  | reference _ => none
  | scalar anchor? _ | sequence anchor? _ _ | mapping anchor? _ _ => anchor?

/-- The number of marks of a node: a sequence or a mapping has a start and an end. -/
def markCount : Node → Nat
  | reference _ | scalar _ _ => 1
  | sequence _ _ _ | mapping _ _ _ => 2

mutual

/-- A node and all nodes inside it, in the order in which they start. -/
def nodes : Node → List Node
  | sequence anchor? tag? items => sequence anchor? tag? items :: nodesOfItems items
  | mapping anchor? tag? entries => mapping anchor? tag? entries :: nodesOfEntries entries
  | node => [node]
termination_by structural node => node

/-- The nodes inside a sequence. -/
def nodesOfItems : List Node → List Node
  | [] => []
  | item :: rest => item.nodes ++ nodesOfItems rest
termination_by structural items => items

/-- The nodes inside a mapping. -/
def nodesOfEntries : List (Node × Node) → List Node
  | [] => []
  | (key, value) :: rest => key.nodes ++ value.nodes ++ nodesOfEntries rest
termination_by structural entries => entries

end

end Node

/-! ### Reading nodes from tokens -/

/-- The tokens that are not read yet, the addresses of the handles, and the numbers of the anchors
that are in force. -/
structure NodeReader where
  tokens : List Token
  handles : List (String × Bytes)
  anchors : List (String × Nat)
  deriving Repr

namespace NodeReader

/-- Reading steps can fail. -/
abbrev Step := StateT NodeReader Option

/-- The next token. -/
def peek : Step Token := do return (← get).tokens.headD .textEnd

/-- Goes on behind the next token. -/
def advance : Step Unit := modify fun reader => { reader with tokens := reader.tokens.tail }

/-- Goes on behind the next token if it is the given one. -/
def accept (token : Token) : Step Bool := do
  if (← peek) = token then
    advance
    return true
  else return false

/-- Goes on behind the given token. -/
def expect (token : Token) : Step Unit := do
  if !(← accept token) then failure

/-- Reads a node, unless a token comes next that ends the place for it. -/
def orEmpty (isEnd : Token → Bool) (read : Step Node) : Step Node := do
  if isEnd (← peek) then return .empty else read

/-- Numbers an anchor by the number of the names that are in use before it. -/
def declare (name : String) : Step Nat := do
  let anchors := (← get).anchors
  let number := anchors.length
  let others := anchors.filter fun anchor => anchor.1 ≠ name
  modify fun reader => { reader with anchors := (name, number) :: others }
  return number

/-- The number of the anchor that a name refers to. -/
def refer (name : String) : Step Nat := do
  match (← get).anchors.lookup name with
  | some number => return number
  | none => failure

/-- The full name of a tag. -/
def tagName (handle : String) (suffix : Bytes) : Step Bytes := do
  match (← get).handles.lookup handle with
  | some address => return address ++ suffix
  | none => failure

/-- Reads the anchor of a node, if there is one. -/
def readAnchor : Step (Option Nat) := do
  match ← peek with
  | .anchor name =>
    advance
    return some (← declare name)
  | _ => return none

/-- Reads the tag of a node, if there is one. -/
def readTag : Step (Option Bytes) := do
  match ← peek with
  | .tag handle suffix =>
    advance
    return some (← tagName handle suffix)
  | _ => return none

/-- Reads the anchor and the tag of a node, in any order. -/
def readProperties : Step (Option Nat × Option Bytes) := do
  match ← readAnchor with
  | some number => return (some number, ← readTag)
  | none =>
    let name? ← readTag
    return (← readAnchor, name?)

/-- The tag of a scalar that is written; a lone exclamation mark says nothing. -/
def scalarTag? (name? : Option Bytes) : Option Tag :=
  if name? = some [0x21] then none else name?.bind Tag.ofBytes?

/-- The tokens that end an item of a block. -/
def endsItem (isIndentless : Bool) (token : Token) : Bool :=
  token = .blockEntry || token = .blockEnd || (isIndentless && (token = .key || token = .value))

/-- The tokens that end a key or a value of a block. -/
def endsEntry (token : Token) : Bool := token = .key || token = .value || token = .blockEnd

/-- The tokens that end a value in brackets. -/
def endsFlowValue (closing token : Token) : Bool := token = .flowEntry || token = closing

/-- The tokens that end a key in brackets. -/
def endsFlowKey (closing token : Token) : Bool := token = .value || endsFlowValue closing token

mutual

/-- Reads a node. Blocks stand outside brackets, and a sequence that is not indented stands in a
mapping. -/
def readNode (inBlock isIndentless : Bool) : (fuel : Nat) → Step Node
  | 0 => failure
  | fuel + 1 => do
    match ← peek with
    | .reference name =>
      advance
      return .reference (← refer name)
    | _ =>
      let (anchor?, name?) ← readProperties
      let tag? := name?.bind Tag.ofBytes?
      match ← peek with
      | .scalar isPlain text =>
        advance
        return .scalar anchor? ⟨scalarTag? name?, isPlain, text⟩
      | .flowSequence =>
        advance
        return .sequence anchor? tag? (← readFlowItems true fuel)
      | .flowMapping =>
        advance
        return .mapping anchor? tag? (← readFlowEntries true fuel)
      | token =>
        if isIndentless && token = .blockEntry then
          return .sequence anchor? tag? (← readBlockItems true fuel)
        else if inBlock && token = .blockSequence then
          advance
          return .sequence anchor? tag? (← readBlockItems false fuel)
        else if inBlock && token = .blockMapping then
          advance
          return .mapping anchor? tag? (← readBlockEntries fuel)
        else if anchor?.isSome || name?.isSome then return .scalar anchor? ⟨tag?, true, ""⟩
        else failure

/-- Reads the items of a block. -/
def readBlockItems (isIndentless : Bool) : (fuel : Nat) → Step (List Node)
  | 0 => failure
  | fuel + 1 => do
    if ← accept .blockEntry then
      let item ← orEmpty (endsItem isIndentless) (readNode true false fuel)
      return item :: (← readBlockItems isIndentless fuel)
    else if isIndentless then return []
    else
      expect .blockEnd
      return []

/-- Reads the entries of a block. -/
def readBlockEntries : (fuel : Nat) → Step (List (Node × Node))
  | 0 => failure
  | fuel + 1 => do
    if ← accept .key then
      let key ← orEmpty endsEntry (readNode true true fuel)
      let hasValue ← accept .value
      let value ← if hasValue then orEmpty endsEntry (readNode true true fuel) else pure .empty
      return (key, value) :: (← readBlockEntries fuel)
    else
      expect .blockEnd
      return []

/-- Reads the items in brackets. An item can be a mapping with a single entry; where its key is
missing, the token in its place is passed over. -/
def readFlowItems (isFirst : Bool) : (fuel : Nat) → Step (List Node)
  | 0 => failure
  | fuel + 1 => do
    let closing := Token.flowSequenceEnd
    if ← accept closing then return []
    else
      if !isFirst then expect .flowEntry
      if ← accept closing then return []
      else if ← accept .key then
        let isMissing := endsFlowKey closing (← peek)
        if isMissing then advance
        let key ← if isMissing then pure .empty else readNode false false fuel
        let hasValue ← accept .value
        let value ←
          if hasValue then orEmpty (endsFlowValue closing) (readNode false false fuel)
          else pure .empty
        return .mapping none none [(key, value)] :: (← readFlowItems false fuel)
      else
        let item ← readNode false false fuel
        return item :: (← readFlowItems false fuel)

/-- Reads the entries in braces. -/
def readFlowEntries (isFirst : Bool) : (fuel : Nat) → Step (List (Node × Node))
  | 0 => failure
  | fuel + 1 => do
    let closing := Token.flowMappingEnd
    if ← accept closing then return []
    else
      if !isFirst then expect .flowEntry
      if ← accept closing then return []
      else if ← accept .key then
        let key ← orEmpty (endsFlowKey closing) (readNode false false fuel)
        let hasValue ← accept .value
        let value ←
          if hasValue then orEmpty (endsFlowValue closing) (readNode false false fuel)
          else pure .empty
        return (key, value) :: (← readFlowEntries false fuel)
      else
        let key ← readNode false false fuel
        return (key, .empty) :: (← readFlowEntries false fuel)

end

end NodeReader

end GatewayCheck.Yaml
