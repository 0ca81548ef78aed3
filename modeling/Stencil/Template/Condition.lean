import Stencil.Data.Display
import Stencil.Data.Resolve
import Stencil.Template.Arguments
import Stencil.Template.Block

/-!
# Conditions

What stands in the header of an `if` block: a name, a negated name, or a
comparison of two operands.  The pass over the `if` blocks of a text leaves of
each outermost block the branch that its condition selects; blocks inside that
branch stay as they are.
-/

namespace Stencil

/-- The ways to compare two operands. -/
inductive Comparison where
  | strictlyEqual
  | strictlyUnequal
  | equal
  | unequal
  deriving DecidableEq, Repr

namespace Comparison

def sign : Comparison → Text
  | strictlyEqual => ['=', '=', '=']
  | strictlyUnequal => ['!', '=', '=']
  | equal => ['=', '=']
  | unequal => ['!', '=']

/-- The comparisons in the order in which a condition is searched for them. -/
def all : List Comparison :=
  [strictlyEqual, strictlyUnequal, equal, unequal]

def holds (left right : Value) : Comparison → Except Fault Bool
  | strictlyEqual => .ok (left.strictEquals right)
  | strictlyUnequal => .ok (!left.strictEquals right)
  | equal => left.looseEquals right
  | unequal => (left.looseEquals right).map (!·)

/-- The first comparison whose sign occurs in a text, with what stands before
and after the first occurrence. -/
def find? (text : Text) : Option (Comparison × Text × Text) :=
  all.findSome? fun comparison => (Text.cut? comparison.sign text).map (comparison, ·)

end Comparison

/-- A condition. -/
inductive Condition where
  | name (path : Text)
  | negation (path : Text)
  | comparison (sign : Comparison) (left right : Text)
  deriving DecidableEq, Repr

namespace Condition

/-- Whether a text begins with an exclamation mark that is no part of a
sign. -/
def isNegated : Text → Bool
  | '!' :: '=' :: _ => false
  | '!' :: _ => true
  | _ => false

/-- The condition that a header stands for. -/
def ofText (header : Text) : Condition :=
  let text := Text.trim header
  if isNegated text then negation (Text.trim text.tail)
  else match Comparison.find? text with
    | some (sign, left, right) => comparison sign (Text.trim left) (Text.trim right)
    | none => name text

/-- The value of an operand: what it names or, if it names nothing and stands
for itself then, its own text without quotes. -/
def operand (literalFallback : Bool) (context : Entries) (text : Text) : Value :=
  match Entries.resolve text context with
  | .undefined => if literalFallback then .text (Arguments.unquote text) else .undefined
  | value => value

def holds (literalFallback : Bool) (context : Entries) : Condition → Except Fault Bool
  | name path => .ok (Entries.resolve path context).isTruthy
  | negation path => .ok !(Entries.resolve path context).isTruthy
  | comparison sign left right =>
      sign.holds (operand literalFallback context left) (operand literalFallback context right)

/-- The branch of an `if` block that its condition selects. -/
def branch (literalFallback : Bool) (context : Entries) (block : Block) :
    Except Fault Text := do
  if ← (ofText block.header).holds literalFallback context then return block.body
  else return block.alternative?.getD []

/-- One pass over the outermost `if` blocks of a text. -/
def pass (literalFallback : Bool) (context : Entries) (text : Text) : Except Fault Text :=
  (Layout.ofText Tag.ifMarks text).replace (branch literalFallback context)

end Condition

end Stencil
