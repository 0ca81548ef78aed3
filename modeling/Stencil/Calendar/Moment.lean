import Stencil.Calendar.Date
import Stencil.Number.Binary64

/-!
# Moments

A moment is a date with a time of day, to the microsecond.  A timestamp is a
moment that may carry an offset from universal time.  The instant of a moment
counts the microseconds from the beginning of year 1.
-/

namespace Stencil

/-- A time of day that exists. -/
structure Clock where
  hour : Nat
  minute : Nat
  second : Nat
  microsecond : Nat
  valid : hour < 24 ∧ minute < 60 ∧ second < 60 ∧ microsecond < 1000000
  deriving DecidableEq

namespace Clock

def ofFields? (hour minute second microsecond : Nat) : Option Clock :=
  if valid : hour < 24 ∧ minute < 60 ∧ second < 60 ∧ microsecond < 1000000 then
    some ⟨hour, minute, second, microsecond, valid⟩
  else none

def midnight : Clock := ⟨0, 0, 0, 0, by decide⟩

/-- The microseconds since the beginning of the day. -/
def sinceMidnight (clock : Clock) : Nat :=
  ((clock.hour * 60 + clock.minute) * 60 + clock.second) * 1000000 + clock.microsecond

/-- Hours, minutes and seconds with colons, and the microseconds unless there
are none. -/
def text (clock : Clock) : Text :=
  Text.padded 2 clock.hour ++ ':' :: Text.padded 2 clock.minute
    ++ ':' :: Text.padded 2 clock.second
    ++ (if clock.microsecond = 0 then [] else '.' :: Text.padded 6 clock.microsecond)

end Clock

structure Moment where
  date : Date
  clock : Clock
  deriving DecidableEq

/-- The microseconds of a day. -/
def dayLength : Nat := 86400000000

/-- The beginning of 1970 as an instant. -/
def epoch : Int := 719162 * dayLength

namespace Moment

/-- The microseconds since the beginning of year 1. -/
def instant (moment : Moment) : Int :=
  (moment.date.ordinal - 1) * dayLength + moment.clock.sinceMidnight

/-- The moment of an instant, if it lies in the years 1 to 9999. -/
def ofInstant? (instant : Int) : Option Moment :=
  let day := instant.fdiv dayLength
  let rest := (instant.fmod dayLength).toNat
  let seconds := rest / 1000000
  match Date.ofOrdinal? (day + 1),
      Clock.ofFields? (seconds / 3600) (seconds / 60 % 60) (seconds % 60) (rest % 1000000) with
  | some date, some clock => some ⟨date, clock⟩
  | _, _ => none

/-- The whole seconds and the microseconds nearest to a number of seconds.
The fraction is multiplied as a binary64 number before it is rounded. -/
def splitSeconds (negative : Bool) (mantissa : Nat) (exponent : Int) : Int :=
  let (value, denominator) := Binary64.quotient negative mantissa exponent
  let whole := value.natAbs / denominator
  let part :=
    match Binary64.ofQuotient false (value.natAbs % denominator * 1000000) denominator with
    | .finite _ mantissa exponent =>
        let (numerator, denominator) := Binary64.quotient false mantissa exponent
        Binary64.roundQuotient numerator.natAbs denominator
    | .infinite _ => 0
  let magnitude : Int := whole * 1000000 + part
  if negative then -magnitude else magnitude

/-- The moment that lies a number of seconds after the beginning of 1970 in
universal time.  A moment without a day before it in year 1 is refused. -/
def ofSeconds? : Binary64 → Option Moment
  | .infinite _ => none
  | .finite negative mantissa exponent =>
      let instant := epoch + splitSeconds negative mantissa exponent
      if instant < dayLength then none else ofInstant? instant

/-- Date and time with a character between them. -/
def text (between : Char) (moment : Moment) : Text :=
  moment.date.text ++ between :: moment.clock.text

end Moment

/-- A moment with the offset of its zone from universal time in microseconds,
if it has one. -/
structure Timestamp where
  moment : Moment
  offset : Option Int
  deriving DecidableEq

namespace Timestamp

/-- An offset as a sign, hours and minutes, and seconds if it has any. -/
def offsetText (offset : Int) : Text :=
  let sign := if offset < 0 then '-' else '+'
  let seconds := offset.natAbs / 1000000
  let fraction := offset.natAbs % 1000000
  sign :: Text.padded 2 (seconds / 3600) ++ ':' :: Text.padded 2 (seconds / 60 % 60)
    ++ (if seconds % 60 = 0 ∧ fraction = 0 then [] else ':' :: Text.padded 2 (seconds % 60))
    ++ (if fraction = 0 then [] else '.' :: Text.padded 6 fraction)

def text (between : Char) (stamp : Timestamp) : Text :=
  stamp.moment.text between ++ (stamp.offset.map offsetText).getD []

/-- Whether two timestamps are the same: as instants if both have an offset,
as moments if neither has. -/
def same (left right : Timestamp) : Bool :=
  match left.offset, right.offset with
  | some leftOffset, some rightOffset =>
      left.moment.instant - leftOffset = right.moment.instant - rightOffset
  | none, none => left.moment = right.moment
  | _, _ => false

/-- The moment in universal time; a timestamp without offset is taken to be
there already.  `none` if the moment lies outside the years 1 to 9999. -/
def toUniversal? (stamp : Timestamp) : Option Moment :=
  match stamp.offset with
  | none => some stamp.moment
  | some offset => Moment.ofInstant? (stamp.moment.instant - offset)

end Timestamp

end Stencil
