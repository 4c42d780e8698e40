import GatewayCheck.Decimal

/-!
Numbers of a document: whole numbers of at most 64 bits, and floating-point numbers. A number keeps
the form in which it was written, and numbers are compared by their exact values.
-/
namespace GatewayCheck

/-- A number as it was written. -/
inductive Number where
  | whole (value : Int)
  | floating (value : Binary64)
  deriving DecidableEq, Repr

namespace Number

/-- The exact value of a number as a whole numerator over a positive denominator. -/
def value : Number → Int × Nat
  | whole value => (value, 1)
  | floating value => value.value

/-- The first number is less than the second. -/
def below (left right : Number) : Bool :=
  let (leftTop, leftBottom) := left.value
  let (rightTop, rightBottom) := right.value
  leftTop * rightBottom < rightTop * leftBottom

/-- Two numbers have the same value. -/
def same (left right : Number) : Bool :=
  let (leftTop, leftBottom) := left.value
  let (rightTop, rightBottom) := right.value
  leftTop * rightBottom == rightTop * leftBottom

/-- The first number is a whole multiple of the second. -/
def isMultipleOf (value divisor : Number) : Bool :=
  let (top, bottom) := value.value
  let (divisorTop, divisorBottom) := divisor.value
  (top * divisorBottom) % (divisorTop * bottom) == 0

/-- A number without a fractional part, in either form. -/
def isWhole : Number → Bool
  | whole _ => true
  | floating value => value.isWhole

/-- The text of a whole number. -/
def wholeText (value : Int) : String :=
  String.ofList (if value < 0 then '-' :: Nat.toDigits 10 value.natAbs
    else Nat.toDigits 10 value.natAbs)

/-- The text of a number. -/
def text : Number → String
  | whole value => wholeText value
  | floating value => value.text

end Number

end GatewayCheck
