import Stencil.Number.Binary64

/-!
# The shortest decimal text of a binary64 number

A finite number is written with the fewest decimal digits that read back as
the same number, and with the nearest such digits.  Numbers from `0.0001` up
to, but not including, `10 ^ 16` are written positionally, the others with an
exponent of at least two digits.
-/

namespace Stencil.Binary64

/-- Digits and the power of ten of their last place. -/
structure Decimal where
  digits : Nat
  exponent : Int
  deriving DecidableEq, Repr

/-- The interval of magnitudes that round to a number, with the number itself:
all are multiples of one quarter of a unit in the last place, and the quarter
is `numerator / denominator`. -/
structure Rounding where
  low : Nat
  value : Nat
  high : Nat
  closed : Bool
  numerator : Nat
  denominator : Nat

def rounding (mantissa : Nat) (exponent : Int) : Rounding where
  low := if mantissa = Nat.pow 2 52 && exponent > -1074 then 4 * mantissa - 1 else 4 * mantissa - 2
  value := 4 * mantissa
  high := 4 * mantissa + 2
  closed := mantissa % 2 = 0
  numerator := if exponent < 2 then 1 else Nat.pow 2 (exponent - 2).natAbs
  denominator := if exponent < 2 then Nat.pow 2 (exponent - 2).natAbs else 1

/-- The multiple of `10 ^ exponent` nearest to the value among its two
neighbours inside the interval, if one of them is inside; a tie goes to the
even digit. -/
def Rounding.grid? (interval : Rounding) (exponent : Int) : Option Nat :=
  let unitOver := if exponent < 0 then 1 else Nat.pow 10 exponent.natAbs
  let unitUnder := if exponent < 0 then Nat.pow 10 exponent.natAbs else 1
  let numerator := interval.numerator * unitUnder
  let denominator := interval.denominator * unitOver
  let floor := interval.value * numerator / denominator
  let above := floor + 1
  let lowFits :=
    if interval.closed then interval.low * numerator ≤ floor * denominator
    else interval.low * numerator < floor * denominator
  let highFits :=
    if interval.closed then above * denominator ≤ interval.high * numerator
    else above * denominator < interval.high * numerator
  let twice := 2 * interval.value * numerator
  let nearer :=
    twice < (floor + above) * denominator
      || (twice = (floor + above) * denominator && floor % 2 = 0)
  match decide lowFits && floor != 0, decide highFits with
  | true, true => some (if nearer then floor else above)
  | true, false => some floor
  | false, true => some above
  | false, false => none

/-- The first grid with a point in the interval, from coarse to fine. -/
def Rounding.firstGrid (interval : Rounding) (exponent : Int) : Nat → Decimal
  | 0 => ⟨0, exponent⟩
  | steps + 1 =>
      match interval.grid? exponent with
      | some digits => ⟨digits, exponent⟩
      | none => interval.firstGrid (exponent - 1) steps

/-- The power of ten of the leading decimal place of a positive quotient, or
one more. -/
def leadingPlace (numerator denominator : Nat) : Int :=
  (Text.ofNat numerator).length - (Text.ofNat denominator).length + 1

def Decimal.stripped : Nat → Decimal → Decimal
  | 0, decimal => decimal
  | steps + 1, decimal =>
      if decimal.digits % 10 = 0 && decimal.digits != 0 then
        Decimal.stripped steps ⟨decimal.digits / 10, decimal.exponent + 1⟩
      else decimal

/-- The shortest digits that read back as the number. -/
def shortest (mantissa : Nat) (exponent : Int) : Decimal :=
  let interval := rounding mantissa exponent
  let start := leadingPlace (interval.value * interval.numerator) interval.denominator
  (interval.firstGrid start 40).stripped 20

/-- Digits with the point after the first `whole` of them; a whole number gets
one zero after its point. -/
def positional (digits : Text) (whole : Int) : Text :=
  if whole ≤ 0 then
    '0' :: '.' :: List.replicate whole.natAbs '0' ++ digits
  else
    let whole := whole.natAbs
    if digits.length ≤ whole then
      digits ++ List.replicate (whole - digits.length) '0' ++ ['.', '0']
    else digits.take whole ++ ['.'] ++ digits.drop whole

/-- Digits with the point after the first of them and a power of ten. -/
def scientific (digits : Text) (power : Int) : Text :=
  let fraction := if digits.length ≤ 1 then [] else '.' :: digits.drop 1
  let sign := if power < 0 then '-' else '+'
  digits.take 1 ++ fraction ++ ['e', sign] ++ Text.padded 2 power.natAbs

def text : Binary64 → Text
  | .infinite negative => if negative then ['-', 'i', 'n', 'f'] else ['i', 'n', 'f']
  | .finite negative mantissa exponent =>
      let magnitude :=
        if mantissa = 0 then ['0', '.', '0']
        else
          let decimal := shortest mantissa exponent
          let digits := Text.ofNat decimal.digits
          let power := decimal.exponent + digits.length - 1
          if -4 ≤ power ∧ power < 16 then positional digits (power + 1)
          else scientific digits power
      if negative then '-' :: magnitude else magnitude

end Stencil.Binary64
