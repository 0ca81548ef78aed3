import Stencil.Data.Equality
import Stencil.Data.Json.Write
import Stencil.Text.Quoted

/-!
# Values as text

The text that a value becomes in rendered output, and the text of a value as a
name in a placeholder.  The loose equality of conditions compares a text with
a list or a mapping by these texts, so it is defined here.
-/

namespace Stencil.Value

/-- The text of a value in rendered output. -/
def display : Value → Except Fault Text
  | text value => .ok value
  | null | undefined => .ok []
  | bool value => .ok (if value then "true".toList else "false".toList)
  | int value => intText value
  | float value =>
      match value.toInt? with
      | some number => .ok (Text.ofInt number)
      | none => .ok value.text
  | nan _ => .ok "nan".toList
  | date _ value => .ok value.text
  | timestamp _ value => .ok (value.text ' ')
  | collection => Json.write Json.compact collection

/-- The parts of a tuple as it is written in a name; a tuple of one part keeps
its comma. -/
def tupleText : List Text → Text
  | [part] => '(' :: part ++ [',', ')']
  | parts => '(' :: Text.join [',', ' '] parts ++ [')']

/-- A value as it is written where it has to be built again: a name and what it
is built from. -/
def built (name : String) (parts : List Text) : Text :=
  name.toList ++ '(' :: Text.join [',', ' '] parts ++ [')']

/-- How a length of time in microseconds is built: from days, which alone may be
negative, seconds and microseconds, each of them only if it is not zero. -/
def builtLength (length : Int) : Text :=
  let rest := length.fmod dayLength
  let parts := [("days=", length.fdiv dayLength), ("seconds=", rest / 1000000),
    ("microseconds=", rest % 1000000)].filter fun (_, count) => count ≠ 0
  built "datetime.timedelta" (parts.map fun (name, count) => name.toList ++ Text.ofInt count)

/-- How the zone with an offset is built. -/
def builtZone (offset : Int) : Text :=
  if offset = 0 then "datetime.timezone.utc".toList
  else built "datetime.timezone" [builtLength offset]

def dateParts (date : Date) : List Text :=
  [date.year, date.month, date.day].map fun number => Text.ofInt (number : Nat)

/-- What a time of day is built from: hour, minute, and seconds and microseconds
up to the last one that is not zero. -/
def clockParts (clock : Clock) : List Text :=
  let fraction := if clock.microsecond = 0 then [] else [clock.microsecond]
  let second := if clock.second = 0 ∧ fraction = [] then [] else [clock.second]
  (clock.hour :: clock.minute :: second ++ fraction).map fun number => Text.ofInt (number : Nat)

def builtTimestamp (stamp : Timestamp) : Text :=
  built "datetime.datetime" (dateParts stamp.moment.date ++ clockParts stamp.moment.clock
    ++ (stamp.offset.map fun offset => "tzinfo=".toList ++ builtZone offset).toList)

mutual

/-- The text of a value inside a name; texts are quoted. -/
def inner : Value → Except Fault Text
  | .text value => .ok (Text.quoted value)
  | .null => .ok "None".toList
  | .undefined => .ok "UNDEFINED".toList
  | .bool value => .ok (if value then "True".toList else "False".toList)
  | .int value => intText value
  | .float value => .ok value.text
  | .nan _ => .ok "nan".toList
  | .date _ value => .ok (built "datetime.date" (dateParts value))
  | .timestamp _ value => .ok (builtTimestamp value)
  | .range _ start stop step => do
      let bounds := if step = 1 then [start, stop] else [start, stop, step]
      return built "range" (← bounds.mapM intText)
  | .list _ items => do
      return '[' :: Text.join [',', ' '] (← innerItems items) ++ [']']
  | .tuple _ items => do return tupleText (← innerItems items)
  | .map _ _ entries => do
      return '\x7b' :: Text.join [',', ' '] (← innerEntries entries) ++ ['\x7d']
termination_by structural value => value

def innerItems : List Value → Except Fault (List Text)
  | [] => .ok []
  | item :: items => do
      let first ← inner item
      return first :: (← innerItems items)
termination_by structural items => items

def innerEntries : List (Value × Value) → Except Fault (List Text)
  | [] => .ok []
  | (key, value) :: entries => do
      let name ← inner key
      let content ← inner value
      return (name ++ [':', ' '] ++ content) :: (← innerEntries entries)
termination_by structural entries => entries

end

/-- The text of a value as a name: a text is its own name, and so are dates. -/
def name : Value → Except Fault Text
  | text value => .ok value
  | date _ value => .ok value.text
  | timestamp _ value => .ok (value.text ' ')
  | value => inner value

/-- The loose equality of conditions. -/
def looseEquals (left right : Value) : Except Fault Bool :=
  if left.isMissing || right.isMissing then .ok (left.isMissing && right.isMissing)
  else match left, right with
    | text left, text right => .ok (left = right)
    | left, right =>
        if left.isScalar && right.isScalar then do
          let left ← left.toBinary64
          let right ← right.toBinary64
          match left, right with
          | some left, some right => return left.same right
          | _, _ => return false
        else match left, right with
          | text left, right => do return left = (← right.display)
          | left, text right => do return (← left.display) = right
          | left, right => .ok (equal left right)

end Stencil.Value
