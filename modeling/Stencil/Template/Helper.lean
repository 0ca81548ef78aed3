import Stencil.Data.Resolve
import Stencil.Template.Filter

/-!
# Helpers

A helper is a function of arguments that a template calls by name.  A quoted
argument is the text between the quotes; any other is what it names or, if it
names nothing, its own text.
-/

namespace Stencil.Helper

/-- Writes a value that denotes a moment; empty and zero values give the empty
text. -/
def formatDateWith (value format : Value) : Except Fault Value :=
  if value.isBlankValue then .ok (.text []) else Filter.formatted value format

/-- Writes a value that denotes a moment, in the default format if no other is
given. -/
def formatDate : Function
  | [] => formatDateWith .null Value.defaultFormat
  | [value] => formatDateWith value Value.defaultFormat
  | [value, format] => formatDateWith value format
  | arguments => .error (.argumentCount ⟨"format_date_helper".toList, [], 2⟩ arguments.length)

/-- The number nearest to what a value denotes, if it denotes one. -/
def number? : Value → Except Fault (Option Binary64)
  | .text content =>
      match Text.toReading? content with
      | some (.number number) => .ok (some number)
      | _ => .ok none
  | value => value.toBinary64

def isEvenNumber (number : Binary64) : Bool :=
  match number.toInt? with
  | some integer => integer % 2 = 0
  | none => false

/-- Whether a value denotes an even integer. -/
def isEven : Function
  | [value] => do
      match ← number? value with
      | some number => return .bool (isEvenNumber number)
      | none => return .bool false
  | arguments =>
      .error (.argumentCount ⟨"is_even".toList, ["value".toList], 0⟩ arguments.length)

/-- The most items a range may have to be counted. -/
def maxCount : Nat := Nat.pow 2 63 - 1

/-- How many items a list-like value has. -/
def count : Function
  | [.list _ items] | [.tuple _ items] => .ok (.int items.length)
  | [.range _ start stop step] =>
      let length := Value.rangeLength start stop step
      if length ≤ maxCount then .ok (.int length) else .error .rangeTooLong
  | [_] => .ok (.int 0)
  | arguments => .error (.argumentCount ⟨"count".toList, ["value".toList], 0⟩ arguments.length)

def builtin : Registry where
  kind := .helper
  functions :=
    [("formatDate".toList, formatDate), ("isEven".toList, isEven), ("count".toList, count)]

/-- A call of a helper: its name and the text between the parentheses. -/
structure Call where
  name : Text
  raw : Text
  deriving DecidableEq, Repr

namespace Call

/-- A text without one line feed at its end. -/
def withoutLineEnd (text : Text) : Text :=
  if text.getLast? = some '\n' then text.dropLast else text

/-- The call that an expression stands for: a name and parentheses, of which
the closing one comes last, but for one line feed. -/
def ofText? (expression : Text) : Option Call :=
  let name := expression.takeWhile Text.isNameChar
  if name = [] then none
  else match withoutLineEnd (expression.dropWhile Text.isNameChar) with
    | '(' :: rest =>
        if rest.getLast? = some ')' then some ⟨name, rest.dropLast⟩ else none
    | _ => none

/-- The value of one argument. -/
def argument (context : Entries) (text : Text) : Value :=
  if Arguments.isQuoted text then .text (Arguments.unquote text)
  else match Entries.resolve text context with
    | .undefined => .text text
    | value => value

def arguments (raw : Text) (context : Entries) : List Value :=
  (Arguments.split [','] raw).map (argument context)

/-- The value of a call.  A helper that is not registered gives the empty
text, unless the policy is strict. -/
def evaluate (registry : Registry) (policy : Policy) (context : Entries) (call : Call) :
    Logged Value := do
  match ← registry.lookup call.name policy with
  | some helper => Logged.lift (helper (arguments call.raw context))
  | none => return .text []

end Call

end Stencil.Helper
