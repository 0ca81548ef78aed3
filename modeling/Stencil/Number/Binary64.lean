import Stencil.Text.Numeral

/-!
# Binary64 numbers

Floating-point numbers in exact arithmetic.  A finite number is a sign, a
mantissa and a power of two; a quotient of integers is rounded to the nearest
such number, a tie to the even mantissa.  There is no "not a number" here: an
operation that has no result returns `none`.
-/

namespace Stencil

/-- A number of the binary64 format, the mantissa below `2 ^ 53` and the
exponent between `-1074` and `971`. -/
inductive Binary64 where
  | finite (negative : Bool) (mantissa : Nat) (exponent : Int)
  | infinite (negative : Bool)
  deriving DecidableEq, Repr

namespace Binary64

/-- The nearest integer to a quotient, a tie to the even neighbour. -/
def roundQuotient (numerator denominator : Nat) : Nat :=
  let quotient := numerator / denominator
  let twice := 2 * (numerator % denominator)
  if denominator < twice || (twice = denominator && quotient % 2 = 1) then quotient + 1
  else quotient

/-- Numerator and denominator of a quotient divided by a power of two. -/
def scaled (numerator denominator : Nat) (exponent : Int) : Nat × Nat :=
  if exponent < 0 then (numerator * Nat.pow 2 exponent.natAbs, denominator)
  else (numerator, denominator * Nat.pow 2 exponent.natAbs)

/-- The exponent at which the mantissa of a quotient has 53 bits, or the least
exponent there is. -/
def exponentOf (numerator denominator : Nat) : Int :=
  let guess : Int := (Nat.log2 numerator : Int) - Nat.log2 denominator - 52
  let (numerator, denominator) := scaled numerator denominator guess
  max (-1074) (if numerator / denominator < Nat.pow 2 52 then guess - 1 else guess)

/-- The number nearest to a quotient of natural numbers. -/
def ofQuotient (negative : Bool) (numerator denominator : Nat) : Binary64 :=
  if numerator = 0 then .finite negative 0 (-1074)
  else
    let exponent := exponentOf numerator denominator
    let (numerator, denominator) := scaled numerator denominator exponent
    let mantissa := roundQuotient numerator denominator
    let (mantissa, exponent) :=
      if mantissa = Nat.pow 2 53 then (Nat.pow 2 52, exponent + 1) else (mantissa, exponent)
    if exponent > 971 then .infinite negative else .finite negative mantissa exponent

/-- The number nearest to `digits * 10 ^ exponent`, where `digits` has `places`
decimal places at most. -/
def ofDecimal (negative : Bool) (digits places : Nat) (exponent : Int) : Binary64 :=
  if digits = 0 then .finite negative 0 (-1074)
  else if (places : Int) + exponent < -400 then .finite negative 0 (-1074)
  else if exponent < 0 then ofQuotient negative digits (Nat.pow 10 exponent.natAbs)
  else if exponent > 400 then .infinite negative
  else ofQuotient negative (digits * Nat.pow 10 exponent.natAbs) 1

/-- The number nearest to an integer; `none` if the integer lies beyond all
finite numbers. -/
def ofInt? (number : Int) : Option Binary64 :=
  match ofQuotient (number < 0) number.natAbs 1 with
  | .infinite _ => none
  | result => some result

/-- Numerator (with its sign) and denominator of a finite number. -/
def quotient (negative : Bool) (mantissa : Nat) (exponent : Int) : Int × Nat :=
  let magnitude : Nat := if exponent < 0 then mantissa else mantissa * Nat.pow 2 exponent.natAbs
  let denominator : Nat := if exponent < 0 then Nat.pow 2 exponent.natAbs else 1
  (if negative then -(magnitude : Int) else magnitude, denominator)

/-- Whether two numbers have the same value; the two zeros have. -/
def same : Binary64 → Binary64 → Bool
  | .infinite left, .infinite right => left = right
  | .finite leftSign leftMantissa leftExponent, .finite rightSign rightMantissa rightExponent =>
      let (left, leftDenominator) := quotient leftSign leftMantissa leftExponent
      let (right, rightDenominator) := quotient rightSign rightMantissa rightExponent
      left * rightDenominator = right * leftDenominator
  | _, _ => false

def equalsInt : Binary64 → Int → Bool
  | .infinite _, _ => false
  | .finite negative mantissa exponent, number =>
      let (value, denominator) := quotient negative mantissa exponent
      value = number * denominator

def toInt? : Binary64 → Option Int
  | .infinite _ => none
  | .finite negative mantissa exponent =>
      let (value, denominator) := quotient negative mantissa exponent
      if value % denominator = 0 then some (value / denominator) else none

/-- The integer nearest to the number in the direction of zero. -/
def truncate? : Binary64 → Option Int
  | .infinite _ => none
  | .finite negative mantissa exponent =>
      let (value, denominator) := quotient negative mantissa exponent
      some (value.tdiv denominator)

/-- Whether the number is one of the two zeros. -/
def isZero : Binary64 → Bool
  | .finite _ mantissa _ => mantissa = 0
  | .infinite _ => false

def divideBy (divisor : Nat) : Binary64 → Binary64
  | .infinite negative => .infinite negative
  | .finite negative mantissa exponent =>
      let (value, denominator) := quotient negative mantissa exponent
      ofQuotient negative value.natAbs (denominator * divisor)

def negate : Binary64 → Binary64
  | .infinite negative => .infinite !negative
  | .finite negative mantissa exponent => .finite (!negative) mantissa exponent

/-- The product of two numbers of which neither is negative, and neither is
zero if one is infinite. -/
def times : Binary64 → Binary64 → Binary64
  | .finite leftSign leftMantissa leftExponent, .finite rightSign rightMantissa rightExponent =>
      let (left, leftDenominator) := quotient leftSign leftMantissa leftExponent
      let (right, rightDenominator) := quotient rightSign rightMantissa rightExponent
      ofQuotient false (left * right).natAbs (leftDenominator * rightDenominator)
  | _, _ => .infinite false

/-- The sum of two numbers of which neither is negative. -/
def plus : Binary64 → Binary64 → Binary64
  | .finite leftSign leftMantissa leftExponent, .finite rightSign rightMantissa rightExponent =>
      let (left, leftDenominator) := quotient leftSign leftMantissa leftExponent
      let (right, rightDenominator) := quotient rightSign rightMantissa rightExponent
      ofQuotient false (left * rightDenominator + right * leftDenominator).natAbs
        (leftDenominator * rightDenominator)
  | _, _ => .infinite false

end Binary64

end Stencil
