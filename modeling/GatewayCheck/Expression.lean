import GatewayCheck.Json.Printer
import GatewayCheck.Text.Quoted

/-!
Filter expressions: a subject, an operator and a value, with a mark for negation before the
operator.
-/
namespace GatewayCheck

/-- The comparisons that a gateway evaluates. -/
inductive Operator where
  | equal
  | different
  | greater
  | atLeast
  | less
  | atMost
  | matchesPattern
  | matchesPatternAnyCase
  | isIn
  | has
  | isAddressIn
  | isInAnyCase
  | hasAnyCase
  | isAddressInAnyCase
  deriving DecidableEq, Repr

namespace Operator

/-- The symbols of the operators. -/
def symbols : List (String × Operator) :=
  [("==", equal), ("~=", different), (">", greater), (">=", atLeast), ("<", less), ("<=", atMost),
    ("~~", matchesPattern), ("~*", matchesPatternAnyCase), ("in", isIn), ("has", has),
    ("ipmatch", isAddressIn),
    ("IN", isInAnyCase), ("HAS", hasAnyCase), ("IPMATCH", isAddressInAnyCase)]

/-- The operator with the given symbol. -/
def ofSymbol? (symbol : String) : Option Operator := symbols.lookup symbol

end Operator

/-- One filter expression. -/
structure Expression where
  subject : String
  negated : Bool
  operator : Operator
  value : Json
  deriving Repr

namespace Expression

/-- What is wrong with an expression, or with what should be a list of expressions. -/
inductive Defect where
  | notList
  | notArray
  | length (count : Nat)
  | negation (found : Json)
  | subject (found : Json)
  | operator (found : Json)
  | nullValue
  deriving Repr

/-- The text of a defect. -/
def Defect.message : Defect → String
  | notList => "vars must be an array"
  | notArray => "expression must be an array"
  | length count =>
    "expression must have 3 or 4 elements, got " ++ Number.wholeText count
  | negation found =>
    "second element of a four-element expression must be \"!\", got " ++ found.compact
  | subject found => "subject must be a non-empty string, got " ++ found.compact
  | operator found => "unknown operator " ++ found.compact
  | nullValue => "value must not be null"

/-- Reads a subject, which is a text and not empty. -/
def readSubject : Json → Except Defect String
  | .string text => if text.isEmpty then .error (.subject (.string text)) else .ok text
  | json => .error (.subject json)

/-- Reads an operator. -/
def readOperator : Json → Except Defect Operator
  | .string symbol =>
    match Operator.ofSymbol? symbol with
    | some operator => .ok operator
    | none => .error (.operator (.string symbol))
  | json => .error (.operator json)

/-- Reads a value, which is not null. -/
def readValue : Json → Except Defect Json
  | .null => .error .nullValue
  | json => .ok json

/-- Reads the three parts of an expression in order. -/
def readParts (negated : Bool) (subject operator value : Json) : Except Defect Expression := do
  let subject ← readSubject subject
  let operator ← readOperator operator
  let value ← readValue value
  return { subject, negated, operator, value }

/-- Reads the mark that negates an expression. -/
def readNegation : Json → Except Defect Unit
  | .string "!" => .ok ()
  | json => .error (.negation json)

/-- Reads an expression from its elements. -/
def read : List Json → Except Defect Expression
  | [subject, operator, value] => readParts false subject operator value
  | [subject, negation, operator, value] => do
    readNegation negation
    readParts true subject operator value
  | elements => .error (.length elements.length)

/-- Reads an expression from a document. -/
def ofJson : Json → Except Defect Expression
  | .array elements => read elements
  | _ => .error .notArray

/-- Reads expressions from the given position on; an error names the position of the first bad
one. -/
def readAllFrom (position : Nat) : List Json → Except (Nat × Defect) (List Expression)
  | [] => .ok []
  | item :: rest => do
    let expression ← (ofJson item).mapError fun defect => (position, defect)
    let others ← readAllFrom (position + 1) rest
    return expression :: others

/-- Reads a list of expressions. -/
def readAll (items : List Json) : Except (Nat × Defect) (List Expression) := readAllFrom 0 items

end Expression

end GatewayCheck
