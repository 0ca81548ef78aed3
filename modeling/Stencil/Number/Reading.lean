import Stencil.Text.Blank
import Stencil.Number.Binary64

/-!
# Reading numbers

The numbers that a text denotes.  A margin around the number, a sign,
digits of any script and single underscores between digits are accepted; the
words for infinity and for "not a number" are accepted in any case.
-/

namespace Stencil

/-- A number that a text denotes: possibly none at all. -/
inductive Reading where
  | number (value : Binary64)
  | notANumber
  deriving DecidableEq, Repr

/-- The most decimal digits an integer may have as a text. -/
def maxDigits : Nat := 4300

namespace Text

/-- Digits that have to be there. -/
def someDigits? (text : Text) : Option (List Nat × Text) :=
  match groupedDigits false text with
  | ([], _) => none
  | found => some found

/-- The digits after a point, if there is a point. -/
def fraction (text : Text) : List Nat × Text :=
  match text with
  | '.' :: rest => groupedDigits false rest
  | _ => ([], text)

/-- A power of ten, zero if none is written; `none` if it lacks its digits. -/
def exponent? (text : Text) : Option (Int × Text) :=
  match text with
  | mark :: rest =>
      if mark = 'e' || mark = 'E' then
        let (negative, rest) := signed rest
        (someDigits? rest).map fun (digits, rest) =>
          let power : Int := ofDigits 10 digits
          (if negative then -power else power, rest)
      else some (0, text)
  | [] => some (0, [])

/-- The magnitude of a finite number with the sign given. -/
def finite? (negative : Bool) (text : Text) : Option Binary64 :=
  let (whole, rest) := groupedDigits false text
  let (part, rest) := fraction rest
  let digits := whole ++ part
  if digits = [] then none
  else match exponent? rest with
    | some (power, []) =>
        some (Binary64.ofDecimal negative (ofDigits 10 digits) digits.length
          (power - part.length))
    | _ => none

/-- The number that a text denotes. -/
def toReading? (text : Text) : Option Reading :=
  let (negative, body) := signed (withoutMargin text)
  let word := lowerAscii body
  if word = ['i', 'n', 'f'] ∨ word = ['i', 'n', 'f', 'i', 'n', 'i', 't', 'y'] then
    some (.number (.infinite negative))
  else if word = ['n', 'a', 'n'] then some .notANumber
  else (finite? negative body).map .number

/-- The integer that a text denotes, if it has no more digits than an integer
may have. -/
def toInt? (text : Text) : Option Int :=
  let (negative, body) := signed (withoutMargin text)
  match someDigits? body with
  | some (digits, []) =>
      if digits.length ≤ maxDigits then
        let value : Int := ofDigits 10 digits
        some (if negative then -value else value)
      else none
  | _ => none

end Text

end Stencil
