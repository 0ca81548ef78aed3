import Stencil.Data.Fault
import Stencil.Data.Value

/-!
# Truth and equality of values

Which values count as true, and the two equalities that conditions use.  The
loose one compares numbers and numeric texts by their binary64 value and other
things by content; the strict one wants the same kind, and the same object
where objects have an identity.
-/

namespace Stencil.Value

/-- Whether a condition holds for the value: not for the empty text, zero,
"not a number", nothing, and what is not bound. -/
def isTruthy : Value → Bool
  | undefined | null | nan _ => false
  | bool value => value
  | int value => value != 0
  | float value => !value.isZero
  | text value => value != []
  | _ => true

/-- Whether the value is missing, false, zero or empty. -/
def isBlankValue : Value → Bool
  | undefined | null => true
  | bool value => !value
  | int value => value = 0
  | float value => value.isZero
  | text value => value = []
  | list _ items | tuple _ items => items.isEmpty
  | range _ start stop step => rangeLength start stop step = 0
  | map _ _ entries => entries.isEmpty
  | nan _ | date .. | timestamp .. => false

/-- A number or truth value in exact terms. -/
inductive Number where
  | int (value : Int)
  | float (value : Binary64)

/-- The number that a number or a truth value stands for. -/
def number? : Value → Option Number
  | bool value => some (.int value.toNat)
  | int value => some (.int value)
  | float value => some (.float value)
  | _ => none

/-- Whether two numbers have exactly the same value. -/
def Number.same : Number → Number → Bool
  | .int left, .int right => left = right
  | .int left, .float right => right.equalsInt left
  | .float left, .int right => left.equalsInt right
  | .float left, .float right => left.same right

/-- Whether two ranges hold the same integers. -/
def sameRange (start stop step start' stop' step' : Int) : Bool :=
  let length := rangeLength start stop step
  decide (length = rangeLength start' stop' step')
    && (length = 0 || (decide (start = start') && (length = 1 || step = step')))

end Value

mutual

/-- Whether two values have the same content.  Numbers and truth values
compare by their exact value, mappings without regard to order, and "not a
number" is equal to itself only as the same object. -/
def Value.equal : Value → Value → Bool
  | .undefined, .undefined => true
  | .null, .null => true
  | .nan left, .nan right => left = right
  | .text left, .text right => left = right
  | .list _ lefts, .list _ rights => Value.equalItems lefts rights
  | .tuple _ lefts, .tuple _ rights => Value.equalItems lefts rights
  | .range _ start stop step, .range _ start' stop' step' =>
      Value.sameRange start stop step start' stop' step'
  | .map _ _ lefts, .map _ _ rights =>
      decide (lefts.length = rights.length) && Value.entriesWithin lefts rights
        && rights.all fun (key, value) => Value.holdsEntry lefts key value
  | .date _ left, .date _ right => left = right
  | .timestamp _ left, .timestamp _ right => left.same right
  | left, right =>
      match left.number?, right.number? with
      | some left, some right => left.same right
      | _, _ => false
termination_by structural left => left

def Value.equalItems : List Value → List Value → Bool
  | [], [] => true
  | left :: lefts, right :: rights => Value.equal left right && Value.equalItems lefts rights
  | _, _ => false
termination_by structural lefts => lefts

/-- Whether each entry on the left is equal to one on the right. -/
def Value.entriesWithin : List (Value × Value) → List (Value × Value) → Bool
  | [], _ => true
  | (key, value) :: lefts, rights =>
      (rights.any fun (key', value') => Value.equal key key' && Value.equal value value')
        && Value.entriesWithin lefts rights
termination_by structural lefts => lefts

/-- Whether one of the entries is equal to a key with a value. -/
def Value.holdsEntry : List (Value × Value) → Value → Value → Bool
  | [], _, _ => false
  | (key, value) :: lefts, key', value' =>
      (Value.equal key key' && Value.equal value value') || Value.holdsEntry lefts key' value'
termination_by structural lefts => lefts

end

namespace Value

/-- The binary64 number nearest to a number, a truth value or a numeric text;
`none` if the value is not a number. -/
def toBinary64 : Value → Except Fault (Option Binary64)
  | bool value => .ok (Binary64.ofInt? value.toNat)
  | int value =>
      match Binary64.ofInt? value with
      | some number => .ok (some number)
      | none => .error .integerTooLarge
  | float value => .ok (some value)
  | text value =>
      let value := Text.trim value
      if value = [] then .ok (Binary64.ofInt? 0)
      else match Text.toReading? value with
        | some (.number number) => .ok (some number)
        | _ => .ok none
  | _ => .ok none

/-- Whether the value is a text, a truth value or a number. -/
def isScalar : Value → Bool
  | text _ | bool _ | int _ | float _ | nan _ => true
  | _ => false

/-- Whether the value stands for nothing. -/
def isMissing : Value → Bool
  | undefined | null => true
  | _ => false

def strictEquals : Value → Value → Bool
  | bool left, bool right => left = right
  | int left, int right => left = right
  | int left, float right => right.equalsInt left
  | float left, int right => left.equalsInt right
  | float left, float right => left.same right
  | nan _, nan _ => false
  | left, right => left = right

end Value

end Stencil
