import Stencil.Calendar.Format
import Stencil.Calendar.Iso
import Stencil.Data.Equality

/-!
# Values as moments

A value is read as a moment in universal time: a date, a timestamp, an ISO
text, or a number of milliseconds since the beginning of 1970.
-/

namespace Stencil.Value

/-- The moment of a timestamp; an offset can carry it beyond the calendar. -/
def universal (stamp : Timestamp) : Except Fault (Option Moment) :=
  match stamp.toUniversal? with
  | some moment => .ok (some moment)
  | none => .error .dateOutOfRange

/-- A text with a final letter for universal time written as an offset. -/
def withOffset (text : Text) : Text :=
  match text.getLast? with
  | some mark =>
      if mark = 'Z' ∨ mark = 'z' then text.dropLast ++ "+00:00".toList else text
  | none => text

def moment? : Value → Except Fault (Option Moment)
  | timestamp _ stamp => universal stamp
  | date _ day => .ok (some ⟨day, Clock.midnight⟩)
  | int value =>
      .ok (Moment.ofSeconds? (Binary64.ofQuotient (value < 0) value.natAbs 1000))
  | float value => .ok (Moment.ofSeconds? (value.divideBy 1000))
  | text value =>
      match Iso.timestamp? (withOffset (Text.trim value)) with
      | some stamp => universal stamp
      | none => .ok none
  | _ => .ok none

/-- The word for the kind of a value in messages. -/
def kindName : Value → Text
  | undefined => "_Undefined".toList
  | null => "NoneType".toList
  | bool _ => "bool".toList
  | int _ => "int".toList
  | float _ | nan _ => "float".toList
  | text _ => "str".toList
  | list .. => "list".toList
  | tuple .. => "tuple".toList
  | range .. => "range".toList
  | map _ readOnly _ => (if readOnly then "mappingproxy" else "dict").toList
  | date .. => "datetime.date".toList
  | timestamp .. => "datetime.datetime".toList

/-- A moment in the format that a value gives; only a text is a format. -/
def formatMoment (moment : Moment) : Value → Except Fault Text
  | text format => .ok (moment.format format)
  | date .. | timestamp .. => .error .formatIsDate
  | format => .error (.formatNotText format.kindName)

def defaultFormat : Value :=
  text Moment.defaultFormat

end Stencil.Value
