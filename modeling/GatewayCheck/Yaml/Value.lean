import GatewayCheck.Number
import GatewayCheck.Yaml.Node

/-!
The values of scalars. A plain scalar can be null, a boolean or a number; any other scalar is a
text, unless its tag says otherwise.
-/
namespace GatewayCheck.Yaml

/-! ### Whole numbers -/

/-- A number is negative or not; a plus sign says nothing. -/
def splitSign : List Char → Bool × List Char
  | '-' :: rest => (true, rest)
  | '+' :: rest => (false, rest)
  | rest => (false, rest)

/-- Decimal digits behind a leading zero, which are a text. -/
def isPadded : List Char → Bool
  | '0' :: rest => !rest.isEmpty && rest.all Char.isDigit
  | _ => false

/-- The value of one or more digits of a base up to sixteen. -/
def readDigits? (base : Nat) (digits : List Char) : Option Nat := do
  let values ← digits.mapM hexDigit?
  if !values.isEmpty && values.all (· < base) then
    some (values.foldl (fun value digit => value * base + digit) 0)
  else none

/-- The value of a whole number without a sign. -/
def readMagnitude? : List Char → Option Nat
  | '0' :: 'x' :: digits => readDigits? 16 digits
  | '0' :: 'o' :: digits => readDigits? 8 digits
  | '0' :: 'b' :: digits => readDigits? 2 digits
  | digits => if isPadded digits then none else readDigits? 10 digits

/-- The value of a whole number. -/
def readWhole? (characters : List Char) : Option Int :=
  let (negative, rest) := splitSign characters
  (readMagnitude? rest).map fun magnitude => if negative then -(magnitude : Int) else magnitude

/-- The number fits into a signed or unsigned number of the given width. -/
def hasWidth (width : Nat) (value : Int) : Bool :=
  -(Nat.pow 2 (width - 1) : Int) ≤ value && value < Nat.pow 2 width

/-! ### Floating-point numbers -/

/-- A floating-point number, which need not be finite. -/
inductive Floating where
  | finite (value : Binary64)
  | infinite (negative : Bool)
  | undefined
  deriving DecidableEq, Repr

/-- The text of a floating-point number, in plain decimals. -/
def Floating.plainText : Floating → String
  | finite value => value.plainText
  | infinite false => "inf"
  | infinite true => "-inf"
  | undefined => "NaN"

/-- The value of an exponent, or of nothing, which is zero. -/
def readExponent? : List Char → Option Int
  | [] => some 0
  | mark :: rest =>
    if mark = 'e' || mark = 'E' then
      let (negative, digits) := splitSign rest
      (readDigits? 10 digits).map fun value => if negative then -(value : Int) else value
    else none

/-- The value of a decimal number without a sign; one that is too large is none. -/
def readDecimal? (negative : Bool) (characters : List Char) : Option Binary64 := do
  let whole := characters.takeWhile Char.isDigit
  let rest := characters.dropWhile Char.isDigit
  let fraction :=
    match rest with
    | '.' :: rest => rest.takeWhile Char.isDigit
    | _ => []
  let rest :=
    match rest with
    | '.' :: rest => rest.dropWhile Char.isDigit
    | _ => rest
  let significand ← readDigits? 10 (whole ++ fraction)
  let exponent ← readExponent? rest
  Binary64.ofDecimal negative significand (exponent - fraction.length)

/-- The spellings of infinity. -/
def infinities : List String := [".inf", ".Inf", ".INF"]

/-- The spellings of the number that is no number. -/
def undefinedSpellings : List String := [".nan", ".NaN", ".NAN"]

/-- The value of a floating-point number. -/
def readFloating? (text : String) : Option Floating :=
  if undefinedSpellings.contains text then some .undefined
  else
    let (negative, rest) := splitSign text.toList
    if infinities.contains (String.ofList rest) then some (.infinite negative)
    else (readDecimal? negative rest).map .finite

/-! ### Scalars -/

/-- The value of a scalar. -/
inductive Value where
  | null
  | boolean (value : Bool)
  | whole (value : Int)
  | floating (value : Floating)
  | text (text : String)
  deriving DecidableEq, Repr

/-- The spellings of null. -/
def isNull (text : String) : Bool := ["null", "Null", "NULL", "~"].contains text

/-- The spellings of the booleans. -/
def readBoolean? (text : String) : Option Bool :=
  if ["true", "True", "TRUE"].contains text then some true
  else if ["false", "False", "FALSE"].contains text then some false
  else none

namespace Value

/-- The value of a plain scalar. A whole number of more than 64 bits is refused, unless it has more
than 128 bits and is read as a floating-point number. -/
def ofPlain? (written : String) : Option Value :=
  if written.isEmpty || isNull written then some null
  else
    match readBoolean? written with
    | some value => some (boolean value)
    | none =>
      let floating? :=
        if isPadded (splitSign written.toList).2 then none else readFloating? written
      let otherwise := (floating?.map floating).getD (text written)
      match readWhole? written.toList with
      | some value =>
        if hasWidth 64 value then some (whole value)
        else if hasWidth 128 value then none
        else some otherwise
      | none => some otherwise

/-- The value of a scalar whose tag says that it is a whole number. -/
def ofWhole? (written : String) : Option Value := do
  let value ← readWhole? written.toList
  if hasWidth 64 value then some (whole value) else none

/-- The value of a scalar. A tag of the document's own gives it no value. -/
def ofScalar? (scalar : Scalar) : Option Value :=
  match scalar.tag? with
  | some (.own _) => none
  | some .null => if isNull scalar.text then some null else none
  | some .boolean => (readBoolean? scalar.text).map boolean
  | some .whole => ofWhole? scalar.text
  | some .floating => (readFloating? scalar.text).map floating
  | some .foreign => some (text scalar.text)
  | none => if scalar.isPlain then ofPlain? scalar.text else some (text scalar.text)

end Value

end GatewayCheck.Yaml
