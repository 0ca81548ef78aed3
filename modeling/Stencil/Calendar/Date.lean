import Stencil.Text.Numeral

/-!
# Calendar dates

Dates of the proleptic Gregorian calendar in the years 1 to 9999.  A date is
valid by its type; the ordinal number of a date counts the days from the first
of January of year 1, which is day 1.
-/

namespace Stencil

namespace Calendar

/-- Whether a year has a 29th of February. -/
def isLeap (year : Nat) : Bool :=
  year % 4 = 0 && (year % 100 != 0 || year % 400 = 0)

def monthLengths (year : Nat) : List Nat :=
  [31, if isLeap year then 29 else 28, 31, 30, 31, 30, 31, 31, 30, 31, 30, 31]

/-- The days of a month; none for a month that does not exist. -/
def daysInMonth (year month : Nat) : Nat :=
  (monthLengths year).getD (month - 1) 0

def daysBeforeYear (year : Nat) : Nat :=
  let past := year - 1
  past * 365 + past / 4 - past / 100 + past / 400

end Calendar

open Calendar in
/-- A date that exists. -/
structure Date where
  year : Nat
  month : Nat
  day : Nat
  valid : (1 ≤ year ∧ year ≤ 9999) ∧ (1 ≤ month ∧ month ≤ 12) ∧
    (1 ≤ day ∧ day ≤ daysInMonth year month)
  deriving DecidableEq

namespace Date

open Calendar

/-- The date with the fields given, if there is one. -/
def ofFields? (year month day : Nat) : Option Date :=
  if valid : (1 ≤ year ∧ year ≤ 9999) ∧ (1 ≤ month ∧ month ≤ 12) ∧
      (1 ≤ day ∧ day ≤ daysInMonth year month) then
    some ⟨year, month, day, valid⟩
  else none

def ordinal (date : Date) : Nat :=
  ((monthLengths date.year).take (date.month - 1)).foldl (· + ·) (daysBeforeYear date.year)
    + date.day

/-- Month and day of the day that has `past` days before it, counted from the
first of `month`. -/
def walkMonths (month past : Nat) : List Nat → Nat × Nat
  | [] => (month, past + 1)
  | length :: later =>
      if past < length then (month, past + 1)
      else walkMonths (month + 1) (past - length) later

/-- The date with an ordinal number.  The cycles of 400, 100, 4 and 1 years
are taken off in turn; the last day of a cycle belongs to its last part. -/
def ofOrdinal? (ordinal : Int) : Option Date :=
  if ordinal < 1 then none
  else
    let past := ordinal.toNat - 1
    let cycles := past / 146097
    let inCycle := past % 146097
    let centuries := min 3 (inCycle / 36524)
    let inCentury := inCycle - centuries * 36524
    let quads := inCentury / 1461
    let inQuad := inCentury % 1461
    let years := min 3 (inQuad / 365)
    let inYear := inQuad - years * 365
    let year := cycles * 400 + centuries * 100 + quads * 4 + years + 1
    let (month, day) := walkMonths 1 inYear (monthLengths year)
    ofFields? year month day

/-- The weekday of an ordinal number, Monday being 0. -/
def weekday (ordinal : Nat) : Nat :=
  (ordinal + 6) % 7

/-- The ordinal number of the Monday of the first week of a year, the week
that holds the first Thursday. -/
def firstMonday (year : Nat) : Int :=
  let first := daysBeforeYear year + 1
  let day := weekday first
  let monday : Int := first - day
  if day > 3 then monday + 7 else monday

/-- Whether a year has a 53rd week: it starts on a Thursday, or on a Wednesday
and is a leap year. -/
def isLongYear (year : Nat) : Bool :=
  let day := weekday (daysBeforeYear year + 1)
  day = 3 || (day = 2 && isLeap year)

/-- The date of a day (Monday being 1) of a week of a year. -/
def ofWeek? (year week day : Nat) : Option Date :=
  if year = 0 || week = 0 || week > 53 || (week = 53 && !isLongYear year)
      || day = 0 || day > 7 then none
  else ofOrdinal? (firstMonday year + (week - 1 : Nat) * 7 + (day - 1 : Nat))

/-- Year, month and day with hyphens. -/
def text (date : Date) : Text :=
  Text.padded 4 date.year ++ '-' :: Text.padded 2 date.month
    ++ '-' :: Text.padded 2 date.day

end Date

end Stencil
