import GatewayCheck.Binary64

/-!
The shortest decimal text of a floating-point number: the fewest digits that read back as the same
number, and of those the nearest to it.
-/
namespace GatewayCheck

/-- The positive decimal number `digits * 10 ^ exponent`. -/
structure Decimal where
  digits : Nat
  exponent : Int
  deriving DecidableEq, Repr

namespace Decimal

/-- The comparison of `count * 10 ^ power` with `number * 2 ^ exponent`, on a common scale. -/
def onScale (count : Nat) (power : Int) (number : Nat) (exponent : Int) : Nat × Nat :=
  let (left, right) :=
    if 0 ≤ power then (count * Nat.pow 10 power.toNat, number)
    else (count, number * Nat.pow 10 (-power).toNat)
  if 0 ≤ exponent then (left, right * Nat.pow 2 exponent.toNat)
  else (left * Nat.pow 2 (-exponent).toNat, right)

/-- The power of ten of the leading digit of a positive number. -/
def leadingPower (significand : Nat) (exponent : Int) : Int :=
  let bits : Int := (significand.log2 : Int) + exponent
  let guess := bits * 1233 / 4096
  let reaches (power : Int) : Bool :=
    let (left, right) := onScale 1 power significand exponent
    left ≤ right
  if reaches (guess + 1) then guess + 1 else if reaches guess then guess else guess - 1

/-- Four times the significand, with the ends of the interval of numbers that round to it. -/
structure Interval where
  lower : Nat
  centre : Nat
  upper : Nat
  exponent : Int
  closed : Bool

/-- The interval that rounds to a number; the step below a power of two is half as wide. -/
def interval (number : Binary64) : Interval where
  lower := 4 * number.significand -
    if number.significand = Nat.pow 2 52 && Binary64.leastExponent < number.exponent then 1 else 2
  centre := 4 * number.significand
  upper := 4 * number.significand + 2
  exponent := number.exponent - 2
  closed := number.significand % 2 == 0

/-- The point `count * 10 ^ power` lies in the interval. -/
def Interval.contains (range : Interval) (count : Nat) (power : Int) : Bool :=
  let (low, lowEnd) := onScale count power range.lower range.exponent
  let (high, highEnd) := onScale count power range.upper range.exponent
  if range.closed then lowEnd ≤ low && high ≤ highEnd else lowEnd < low && high < highEnd

/-- The neighbour of the centre on the grid of multiples of `10 ^ power` that lies in the
interval. -/
def Interval.nearestOnGrid (range : Interval) (power : Int) : Option Nat :=
  let (top, bottom) :=
    if 0 ≤ power then (range.centre, Nat.pow 10 power.toNat)
    else (range.centre * Nat.pow 10 (-power).toNat, 1)
  let (top, bottom) :=
    if 0 ≤ range.exponent then (top * Nat.pow 2 range.exponent.toNat, bottom)
    else (top, bottom * Nat.pow 2 (-range.exponent).toNat)
  let below := top / bottom
  let rest := top % bottom
  let belowFits := range.contains below power
  let aboveFits := range.contains (below + 1) power
  if belowFits && aboveFits then
    if 2 * rest < bottom then some below
    else if bottom < 2 * rest then some (below + 1)
    else if below % 2 = 0 then some below else some (below + 1)
  else if belowFits then some below
  else if aboveFits then some (below + 1)
  else none

/-- Tries the grids of one, two and more digits. -/
def search (range : Interval) (leading : Int) : (remaining tried : Nat) → Decimal
  | 0, tried => ⟨range.centre, leading - tried⟩
  | remaining + 1, tried =>
    match range.nearestOnGrid (leading - tried) with
    | some digits => ⟨digits, leading - tried⟩
    | none => search range leading remaining (tried + 1)

/-- Removes the zeros at the end of the digits. -/
def trimmed : (fuel : Nat) → Decimal → Decimal
  | 0, decimal => decimal
  | fuel + 1, decimal =>
    if decimal.digits % 10 = 0 && decimal.digits ≠ 0 then
      trimmed fuel ⟨decimal.digits / 10, decimal.exponent + 1⟩
    else decimal

/-- The shortest decimal that reads back as the magnitude of a number. -/
def shortest (number : Binary64) : Decimal :=
  if number.isZero then ⟨0, 0⟩
  else
    trimmed 20 (search (interval number) (leadingPower number.significand number.exponent) 17 0)

/-- The digits of a decimal number. -/
def digitText (decimal : Decimal) : List Char := Nat.toDigits 10 decimal.digits

/-- The power of ten of the first digit. -/
def scientificExponent (decimal : Decimal) : Int :=
  (decimal.digitText.length : Int) + decimal.exponent - 1

/-- The whole and fractional digits of a decimal number in positional notation. -/
def positional (decimal : Decimal) : List Char × List Char :=
  let digits := decimal.digitText
  if 0 ≤ decimal.exponent then (digits ++ List.replicate decimal.exponent.toNat '0', [])
  else
    let places := (-decimal.exponent).toNat
    if places < digits.length then digits.splitAt (digits.length - places)
    else (['0'], List.replicate (places - digits.length) '0' ++ digits)

/-- Positional notation; a number without fractional digits has no point. -/
def plain (decimal : Decimal) : List Char :=
  match decimal.positional with
  | (whole, []) => whole
  | (whole, fraction) => whole ++ '.' :: fraction

/-- Positional notation; a number without fractional digits ends in a point and a zero. -/
def pointed (decimal : Decimal) : List Char :=
  match decimal.positional with
  | (whole, []) => whole ++ ['.', '0']
  | (whole, fraction) => whole ++ '.' :: fraction

/-- Scientific notation; a positive exponent has its sign. -/
def scientific (decimal : Decimal) : List Char :=
  let exponent := decimal.scientificExponent
  let power := (if exponent < 0 then '-' else '+') :: Nat.toDigits 10 exponent.natAbs
  match decimal.digitText with
  | first :: second :: rest => first :: '.' :: second :: rest ++ 'e' :: power
  | digits => digits ++ 'e' :: power

end Decimal

namespace Binary64

/-- The text of a number in a document: positional from `10 ^ -5` up to `10 ^ 15`, scientific
beyond. -/
def text (number : Binary64) : String :=
  let decimal := Decimal.shortest number
  let magnitude :=
    if -5 ≤ decimal.scientificExponent && decimal.scientificExponent ≤ 15 then decimal.pointed
    else decimal.scientific
  String.ofList (if number.negative then '-' :: magnitude else magnitude)

/-- The text of a number in positional notation at any magnitude. -/
def plainText (number : Binary64) : String :=
  let magnitude := (Decimal.shortest number).plain
  String.ofList (if number.negative then '-' :: magnitude else magnitude)

end Binary64

end GatewayCheck
