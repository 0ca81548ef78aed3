import Stencil.Data.Display
import Stencil.Data.Moment
import Stencil.Template.Arguments
import Stencil.Template.Registry
import Stencil.Text.Case

/-!
# Filters

A filter is a function of a value and of arguments.  Those that every engine
has work on texts and leave other values alone; `date` writes a value that
denotes a moment.  A pipeline runs a value through one filter after the other.
-/

namespace Stencil.Filter

/-- The characters that markup reserves, and their entities, in the order in
which they are replaced; the ampersand comes first. -/
def entities : List (Char × Text) :=
  [('&', "&amp;".toList), ('<', "&lt;".toList), ('>', "&gt;".toList),
   ('"', "&quot;".toList), ('\'', "&#x27;".toList)]

/-- The text with every occurrence of a character replaced. -/
def substitute (char : Char) (replacement : Text) (text : Text) : Text :=
  text.flatMap fun found => if found = char then replacement else [found]

/-- The text with the reserved characters replaced by their entities, one kind
after the other. -/
def escapeText (text : Text) : Text :=
  entities.foldl (fun text (char, entity) => substitute char entity text) text

def onText (function : Text → Text) : Value → Value
  | .text content => .text (function content)
  | value => value

def escape : Function
  | [value] => .ok (onText escapeText value)
  | arguments => .error (.argumentCount ⟨"escape".toList, ["value".toList], 0⟩ arguments.length)

def upper : Function
  | [value] => .ok (onText Text.upper value)
  | arguments => .error (.argumentCount ⟨"upper".toList, ["value".toList], 0⟩ arguments.length)

def lower : Function
  | [value] => .ok (onText Text.lower value)
  | arguments => .error (.argumentCount ⟨"lower".toList, ["value".toList], 0⟩ arguments.length)

/-- Writes the first character of a text as a capital and the rest in small
letters. -/
def capitalize : Function
  | [value] => .ok (onText Text.capitalize value)
  | arguments =>
      .error (.argumentCount ⟨"capitalize".toList, ["value".toList], 0⟩ arguments.length)

/-- A value that denotes a moment in the format given; any other as it is. -/
def formatted (value format : Value) : Except Fault Value := do
  match ← value.moment? with
  | some moment => return .text (← Value.formatMoment moment format)
  | none => return value

/-- Writes a value that denotes a moment.  Empty and zero values are none. -/
def dateWith (value format : Value) : Except Fault Value :=
  if value.isBlankValue then .ok value else formatted value format

/-- Writes a value that denotes a moment, in the default format if no other is
given. -/
def date : Function
  | [value] => dateWith value Value.defaultFormat
  | [value, format] => dateWith value format
  | arguments => .error (.argumentCount ⟨"date".toList, ["value".toList], 1⟩ arguments.length)

/-- The integer that a length stands for, if it stands for one. -/
def limit? : Value → Except Fault (Option Int)
  | .int length => .ok (some length)
  | .bool length => .ok (some length.toNat)
  | .float length =>
      match length.truncate? with
      | some length => .ok (some length)
      | none => .error .infinityNotInteger
  | .text length => .ok (Text.toInt? length)
  | _ => .ok none

/-- A text that is longer than a limit, cut there and with a suffix. -/
def truncateWith (value length suffix : Value) : Except Fault Value :=
  match value with
  | .text content => do
      match ← limit? length with
      | some limit =>
          if limit < content.length then
            match suffix with
            | .text suffix => return .text (content.take limit.toNat ++ suffix)
            | _ => .error .suffixNotText
          else return value
      | none => return value
  | _ => .ok value

def truncate : Function
  | [value] => truncateWith value (.int 100) (.text "...".toList)
  | [value, length] => truncateWith value length (.text "...".toList)
  | [value, length, suffix] => truncateWith value length suffix
  | arguments =>
      .error (.argumentCount ⟨"truncate".toList, ["value".toList], 2⟩ arguments.length)

def builtin : Registry where
  kind := .filter
  functions :=
    [("escape".toList, escape), ("upper".toList, upper), ("lower".toList, lower),
     ("capitalize".toList, capitalize), ("date".toList, date), ("truncate".toList, truncate)]

/-- A segment of a pipeline: the name of a filter and its arguments. -/
structure Segment where
  name : Text
  arguments : List Text
  deriving DecidableEq, Repr

namespace Segment

/-- The segment that a text stands for: a name, and arguments after a colon. -/
def ofText? (text : Text) : Option Segment :=
  let text := Text.trim text
  let name := text.takeWhile Text.isNameChar
  if name = [] then none
  else match text.dropWhile Text.isNameChar with
    | [] => some ⟨name, []⟩
    | ':' :: raw => some ⟨name, Arguments.parse raw⟩
    | _ => none

end Segment

/-- The value after one segment of a pipeline.  A text that is no segment
changes nothing, and neither does a filter that is not registered, unless the
policy is strict. -/
def step (registry : Registry) (policy : Policy) (value : Value) (text : Text) :
    Logged Value :=
  match Segment.ofText? text with
  | none => return value
  | some segment => do
      match ← registry.lookup segment.name policy with
      | some filter => Logged.lift (filter (value :: segment.arguments.map .text))
      | none => return value

def pipeline (registry : Registry) (policy : Policy) : List Text → Value → Logged Value
  | [], value => return value
  | segment :: segments, value => do
      pipeline registry policy segments (← step registry policy value segment)

end Stencil.Filter
