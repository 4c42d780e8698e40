/-!
Binary floating-point numbers of 64 bits, finite ones only: a sign, a whole significand and a power
of two. Rounding is to the nearest number, and a tie goes to the even significand.
-/
namespace GatewayCheck

/-- A finite number `± significand * 2 ^ exponent`. -/
structure Binary64 where
  negative : Bool
  significand : Nat
  exponent : Int
  deriving DecidableEq, Repr

namespace Binary64

/-- The least exponent of a number. -/
def leastExponent : Int := -1074

/-- The greatest exponent of a number. -/
def greatestExponent : Int := 971

/-- Zero has a sign. -/
def zero (negative : Bool) : Binary64 := ⟨negative, 0, leastExponent⟩

/-- Both zeros are zero. -/
def isZero (number : Binary64) : Bool := number.significand == 0

/-- The number with the other sign. -/
def opposite (number : Binary64) : Binary64 := { number with negative := !number.negative }

/-- The numerator and denominator of `numerator / denominator / 2 ^ exponent`. -/
def scaled (numerator denominator : Nat) (exponent : Int) : Nat × Nat :=
  if 0 ≤ exponent then (numerator, denominator * Nat.pow 2 exponent.toNat)
  else (numerator * Nat.pow 2 (-exponent).toNat, denominator)

/-- The whole number nearest to a quotient; a tie goes to the even neighbour. -/
def nearest (numerator denominator : Nat) : Nat :=
  let quotient := numerator / denominator
  let rest := numerator % denominator
  if 2 * rest < denominator then quotient
  else if denominator < 2 * rest then quotient + 1
  else if quotient % 2 = 0 then quotient else quotient + 1

/-- The exponent at which a quotient has a significand of 53 bits, or the least exponent. -/
def exponentOf (numerator denominator : Nat) : Int :=
  let lower : Int := (numerator.log2 : Int) - denominator.log2 - 53
  let (top, bottom) := scaled numerator denominator lower
  max leastExponent (if Nat.pow 2 53 ≤ top / bottom then lower + 1 else lower)

/-- The number nearest to a quotient, or nothing when the quotient is too large. -/
def ofQuotient (negative : Bool) (numerator denominator : Nat) : Option Binary64 :=
  if numerator = 0 then some (zero negative)
  else
    let exponent := exponentOf numerator denominator
    let (top, bottom) := scaled numerator denominator exponent
    let significand := nearest top bottom
    let (significand, exponent) :=
      if significand = Nat.pow 2 53 then (Nat.pow 2 52, exponent + 1) else (significand, exponent)
    if greatestExponent < exponent then none
    else if significand = 0 then some (zero negative)
    else some ⟨negative, significand, exponent⟩

/-- The numerator and denominator of the magnitude of a number. -/
def quotient (number : Binary64) : Nat × Nat :=
  if 0 ≤ number.exponent then (number.significand * Nat.pow 2 number.exponent.toNat, 1)
  else (number.significand, Nat.pow 2 (-number.exponent).toNat)

/-- The number nearest to the product of two numbers. -/
def multiply (left right : Binary64) : Option Binary64 :=
  let (leftTop, leftBottom) := left.quotient
  let (rightTop, rightBottom) := right.quotient
  ofQuotient (left.negative != right.negative) (leftTop * rightTop) (leftBottom * rightBottom)

/-- The number nearest to the quotient of two numbers. -/
def divide (left right : Binary64) : Option Binary64 :=
  let (leftTop, leftBottom) := left.quotient
  let (rightTop, rightBottom) := right.quotient
  ofQuotient (left.negative != right.negative) (leftTop * rightBottom) (leftBottom * rightTop)

/-- The number of decimal digits of a whole number. -/
def digitCount (number : Nat) : Nat := (Nat.toDigits 10 number).length

/-- The number nearest to `significand * 10 ^ exponent`, or nothing when that is too large. -/
def ofDecimal (negative : Bool) (significand : Nat) (exponent : Int) : Option Binary64 :=
  let magnitude := (digitCount significand : Int) + exponent
  if significand = 0 then some (zero negative)
  else if 310 < magnitude then none
  else if magnitude < -330 then some (zero negative)
  else if 0 ≤ exponent then ofQuotient negative (significand * Nat.pow 10 exponent.toNat) 1
  else ofQuotient negative significand (Nat.pow 10 (-exponent).toNat)

/-- The exact value of a number as a whole numerator over a positive denominator. -/
def value (number : Binary64) : Int × Nat :=
  let (top, bottom) := number.quotient
  (if number.negative then -(top : Int) else top, bottom)

/-- A number without a fractional part. -/
def isWhole (number : Binary64) : Bool :=
  let (top, bottom) := number.quotient
  top % bottom == 0

end Binary64

end GatewayCheck
