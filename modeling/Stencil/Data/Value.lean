import Stencil.Calendar.Moment

/-!
# Values

The values that templates are filled with.  Lists, tuples, ranges, mappings,
dates and the "not a number" value carry an identity, which tells an object
from another one with the same content.  `Value.identical` decides equality of
values with their identities.
-/

namespace Stencil

/-- A value of the render data. -/
inductive Value where
  /-- What a name that is not bound stands for. -/
  | undefined
  | null
  | bool (value : Bool)
  | int (value : Int)
  | float (value : Binary64)
  /-- The floating-point value that is not a number. -/
  | nan (identity : Nat)
  | text (value : Text)
  | list (identity : Nat) (items : List Value)
  | tuple (identity : Nat) (items : List Value)
  /-- The integers from `start` on, `step` apart, that lie before `stop`. -/
  | range (identity : Nat) (start stop step : Int)
  /-- Entries in the order in which their keys were first given. -/
  | map (identity : Nat) (readOnly : Bool) (entries : List (Value × Value))
  | date (identity : Nat) (value : Date)
  | timestamp (identity : Nat) (value : Timestamp)

/-- The entries of a mapping in order. -/
abbrev Entries := List (Value × Value)

mutual

/-- Whether two values are the same, identities included. -/
def Value.identical : Value → Value → Bool
  | .undefined, .undefined => true
  | .null, .null => true
  | .bool left, .bool right => left = right
  | .int left, .int right => left = right
  | .float left, .float right => left = right
  | .nan left, .nan right => left = right
  | .text left, .text right => left = right
  | .list left leftItems, .list right rightItems =>
      decide (left = right) && Value.identicalItems leftItems rightItems
  | .tuple left leftItems, .tuple right rightItems =>
      decide (left = right) && Value.identicalItems leftItems rightItems
  | .range left start stop step, .range right start' stop' step' =>
      left = right ∧ start = start' ∧ stop = stop' ∧ step = step'
  | .map left readOnly entries, .map right readOnly' entries' =>
      decide (left = right) && decide (readOnly = readOnly')
        && Value.identicalEntries entries entries'
  | .date left leftDate, .date right rightDate => left = right ∧ leftDate = rightDate
  | .timestamp left leftStamp, .timestamp right rightStamp =>
      left = right ∧ leftStamp = rightStamp
  | _, _ => false
termination_by structural left => left

def Value.identicalItems : List Value → List Value → Bool
  | [], [] => true
  | left :: lefts, right :: rights =>
      Value.identical left right && Value.identicalItems lefts rights
  | _, _ => false
termination_by structural left => left

def Value.identicalEntries : List (Value × Value) → List (Value × Value) → Bool
  | [], [] => true
  | (key, value) :: lefts, (key', value') :: rights =>
      Value.identical key key' && Value.identical value value'
        && Value.identicalEntries lefts rights
  | _, _ => false
termination_by structural left => left

end

mutual

theorem Value.identical_iff : ∀ left right : Value,
    Value.identical left right = true ↔ left = right
  | .undefined, right => by cases right <;> simp [Value.identical]
  | .null, right => by cases right <;> simp [Value.identical]
  | .bool _, right => by cases right <;> simp [Value.identical]
  | .int _, right => by cases right <;> simp [Value.identical]
  | .float _, right => by cases right <;> simp [Value.identical]
  | .nan _, right => by cases right <;> simp [Value.identical]
  | .text _, right => by cases right <;> simp [Value.identical]
  | .range .., right => by cases right <;> simp [Value.identical]
  | .date .., right => by cases right <;> simp [Value.identical]
  | .timestamp .., right => by cases right <;> simp [Value.identical]
  | .list _ items, right => by
      cases right <;> simp [Value.identical, Value.identicalItems_iff items]
  | .tuple _ items, right => by
      cases right <;> simp [Value.identical, Value.identicalItems_iff items]
  | .map _ _ entries, right => by
      cases right <;> simp [Value.identical, Value.identicalEntries_iff entries, and_assoc]
termination_by structural left => left

theorem Value.identicalItems_iff : ∀ left right : List Value,
    Value.identicalItems left right = true ↔ left = right
  | [], right => by cases right <;> simp [Value.identicalItems]
  | value :: values, right => by
      cases right <;>
        simp [Value.identicalItems, Value.identical_iff value, Value.identicalItems_iff values]
termination_by structural left => left

theorem Value.identicalEntries_iff : ∀ left right : List (Value × Value),
    Value.identicalEntries left right = true ↔ left = right
  | [], right => by cases right <;> simp [Value.identicalEntries]
  | (key, value) :: entries, right => by
      cases right <;>
        simp [Value.identicalEntries, Value.identical_iff key, Value.identical_iff value,
          Value.identicalEntries_iff entries, Prod.ext_iff]
termination_by structural left => left

end

instance : DecidableEq Value := fun left right =>
  decidable_of_iff _ (Value.identical_iff left right)

namespace Value

/-- How many integers a range holds. -/
def rangeLength (start stop step : Int) : Nat :=
  if 0 < step then (if start < stop then ((stop - start - 1) / step).toNat + 1 else 0)
  else if step < 0 then (if stop < start then ((start - stop - 1) / (-step)).toNat + 1 else 0)
  else 0

def rangeItems (start stop step : Int) : List Int :=
  (List.range (rangeLength start stop step)).map fun position : Nat =>
    start + (position : Int) * step

def items? : Value → Option (List Value)
  | list _ items => some items
  | tuple _ items => some items
  | range _ start stop step => some ((rangeItems start stop step).map .int)
  | _ => none

def entries? : Value → Option Entries
  | map _ _ entries => some entries
  | _ => none

def isMapping (value : Value) : Bool :=
  value.entries?.isSome

/-- The identity that every "not a number" in a JSON text has. -/
def jsonNotANumber : Nat := 0

/-- The identity that every "not a number" in a YAML text has. -/
def yamlNotANumber : Nat := 1

/-- The first identity that no shared object has. -/
def firstIdentity : Nat := 2

end Value

mutual

/-- The value with identities from `next` on given to its parts, and the first
identity that is still free.  The empty tuple is one object; the shared "not a
number" values are, too. -/
def Value.identify (next : Nat) : Value → Value × Nat
  | .nan identity =>
      if identity < Value.firstIdentity then (.nan identity, next) else (.nan next, next + 1)
  | .list _ items =>
      let (items, free) := Value.identifyItems (next + 1) items
      (.list next items, free)
  | .tuple _ [] => (.tuple 0 [], next)
  | .tuple _ (item :: items) =>
      let (item, free) := Value.identify (next + 1) item
      let (items, free) := Value.identifyItems free items
      (.tuple next (item :: items), free)
  | .range _ start stop step => (.range next start stop step, next + 1)
  | .map _ readOnly entries =>
      let (entries, free) := Value.identifyEntries (next + 1) entries
      (.map next readOnly entries, free)
  | .date _ value => (.date next value, next + 1)
  | .timestamp _ value => (.timestamp next value, next + 1)
  | value => (value, next)
termination_by structural value => value

def Value.identifyItems (next : Nat) : List Value → List Value × Nat
  | [] => ([], next)
  | item :: items =>
      let (item, free) := Value.identify next item
      let (items, free) := Value.identifyItems free items
      (item :: items, free)
termination_by structural items => items

def Value.identifyEntries (next : Nat) : List (Value × Value) → List (Value × Value) × Nat
  | [] => ([], next)
  | (key, value) :: entries =>
      let (key, free) := Value.identify next key
      let (value, free) := Value.identify free value
      let (entries, free) := Value.identifyEntries free entries
      ((key, value) :: entries, free)
termination_by structural entries => entries

end

end Stencil
