import GatewayCheck.Yaml.Node
import GatewayCheck.Yaml.Token.Lexer

/-!
Documents: a text holds one document or none. A reference stands for the last node whose anchor has its
number.
-/
namespace GatewayCheck.Yaml

/-- A document that is read: its root, and the nodes that references stand for, the last one first. -/
structure Document where
  root? : Option Node
  targets : List (Nat × Node)
  markCount : Nat
  deriving Repr

namespace Document

/-- The document with the given root. -/
def ofRoot (root? : Option Node) : Document :=
  let nodes := (root?.map Node.nodes).getD []
  let targets := nodes.reverse.filterMap fun node => node.anchor?.map fun anchor => (anchor, node)
  ⟨root?, targets, nodes.foldl (fun count node => count + node.markCount) 0⟩

/-- Reads the directives of a document: one for the version, and one for each handle. -/
def readDirectives : (tokens : List Token) → (hasVersion : Bool) →
    (handles : List (String × Bytes)) → Option (List (String × Bytes) × List Token)
  | .directive (.version major minor) :: rest, hasVersion, handles =>
    if hasVersion || major ≠ 1 || !(minor = 1 || minor = 2) then none
    else readDirectives rest true handles
  | .directive (.handle name address) :: rest, hasVersion, handles =>
    if (handles.lookup name).isSome then none
    else readDirectives rest hasVersion ((name, address) :: handles)
  | tokens, _, handles => some (handles ++ knownHandles, tokens)

/-- Reads a node with all its tokens, and returns the tokens after it. -/
def readNode (handles : List (String × Bytes)) (tokens : List Token) :
    Option (Node × List Token) := do
  let fuel := 2 * tokens.length + 2
  let (node, reader) ← (NodeReader.readNode true false fuel).run ⟨tokens, handles, []⟩
  return (node, reader.tokens)

/-- The token starts a document, or ends one. -/
def isMark : Token → Bool
  | .directive _ | .documentStart | .documentEnd | .textEnd => true
  | _ => false

/-- Reads a document that starts with directives or a mark; it can be empty. -/
def readMarked (tokens : List Token) : Option (Node × List Token) := do
  match ← readDirectives tokens false [] with
  | (handles, .documentStart :: rest) =>
    if isMark (rest.headD .textEnd) then some (.empty, rest) else readNode handles rest
  | _ => none

/-- The document that tokens form. After its end nothing follows. -/
def ofTokens? (tokens : List Token) : Option Document := do
  match tokens with
  | [.textEnd] => return ofRoot none
  | _ =>
    let first := tokens.headD .textEnd
    let (root, rest) ←
      if isMark first && first ≠ .documentEnd then readMarked tokens
      else readNode knownHandles tokens
    if rest.dropWhile (· = .documentEnd) = [.textEnd] then return ofRoot (some root) else none

/-- The document that a text holds. -/
def ofText? (text : List Char) : Option Document := do ofTokens? (← Token.ofText? text)

/-- The document that bytes hold. -/
def ofBytes? (bytes : Bytes) : Option Document := do ofText? (← Text.decode? bytes)

/-! ### References -/

/-- Following references is counted. -/
abbrev Following := StateT Nat Option

/-- The number of references that are followed at most. -/
def mostReferences (document : Document) : Nat := document.markCount * 100

/-- The node that a node stands for. -/
def follow (document : Document) : Node → Following Node
  | .reference anchor => do
    modify (· + 1)
    if document.mostReferences < (← get) then failure
    else
      match document.targets.lookup anchor with
      | some node => return node
      | none => failure
  | node => return node

end Document

end GatewayCheck.Yaml
