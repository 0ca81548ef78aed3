import Stencil.Data.Fault
import Stencil.Data.Value
import Stencil.Number.Shortest

/-!
# Writing JSON

The JSON text of a value in one of two styles.  Keys are written as texts
whatever scalar they are; a value that JSON has no form for is a fault, or, in
the lenient style, the text that names it.
-/

namespace Stencil

/-- The text of an integer, which may not have too many digits. -/
def intText (number : Int) : Except Fault Text :=
  if number.natAbs < Nat.pow 10 maxDigits then .ok (Text.ofInt number)
  else .error .tooManyDigits

namespace Json

/-- A manner of writing. -/
structure Style where
  betweenItems : Text
  betweenKeyAndValue : Text
  /-- Whether only ASCII characters are written as they are. -/
  asciiOnly : Bool
  /-- Whether dates, ranges and other things without a JSON form are written
  as texts and lists. -/
  lenient : Bool

/-- The style for values inside rendered text. -/
def compact : Style := ⟨[','], [':'], false, true⟩

/-- The style for responses. -/
def spaced : Style := ⟨[',', ' '], [':', ' '], true, false⟩

def hexadecimal (code : Nat) : Text :=
  let digits := Nat.toDigits 16 code
  List.replicate (4 - digits.length) '0' ++ digits

/-- A code point as an escape, or as two if it is beyond the first plane. -/
def escapedCode (code : Nat) : Text :=
  if code < 0x10000 then '\\' :: 'u' :: hexadecimal code
  else
    let offset := code - 0x10000
    '\\' :: 'u' :: hexadecimal (0xD800 + offset / 1024)
      ++ '\\' :: 'u' :: hexadecimal (0xDC00 + offset % 1024)

/-- A character inside a string. -/
def writeChar (asciiOnly : Bool) (char : Char) : Text :=
  if char = '"' then ['\\', '"']
  else if char = '\\' then ['\\', '\\']
  else if char = '\n' then ['\\', 'n']
  else if char = '\r' then ['\\', 'r']
  else if char = '\t' then ['\\', 't']
  else if char = '\x0c' then ['\\', 'f']
  else if char = '\x08' then ['\\', 'b']
  else if char.toNat < 0x20 || (asciiOnly && 0x7E < char.toNat) then escapedCode char.toNat
  else [char]

/-- A string with its quotes. -/
def writeText (asciiOnly : Bool) (text : Text) : Text :=
  '"' :: text.flatMap (writeChar asciiOnly) ++ ['"']

/-- A floating-point number; infinity is written as a word. -/
def writeFloat : Binary64 → Text
  | .infinite negative =>
      if negative then "-Infinity".toList else "Infinity".toList
  | finite => finite.text

/-- A key as a text, before it is quoted. -/
def keyText : Value → Except Fault Text
  | .text key => .ok key
  | .float key => .ok (writeFloat key)
  | .nan _ => .ok "NaN".toList
  | .bool key => .ok (if key then "true".toList else "false".toList)
  | .null => .ok "null".toList
  | .int key => intText key
  | _ => .error .keyNotWritable

mutual

def write (style : Style) : Value → Except Fault Text
  | .null => .ok "null".toList
  | .bool value => .ok (if value then "true".toList else "false".toList)
  | .int value => intText value
  | .float value => .ok (writeFloat value)
  | .nan _ => .ok "NaN".toList
  | .text value => .ok (writeText style.asciiOnly value)
  | .list _ items => do
      return '[' :: (← writeItems style items) ++ [']']
  | .tuple _ items => do
      return '[' :: (← writeItems style items) ++ [']']
  | .range _ start stop step =>
      if style.lenient then do
        let items ← (Value.rangeItems start stop step).mapM intText
        return '[' :: Text.join style.betweenItems items ++ [']']
      else .error .valueNotWritable
  | .map _ readOnly entries =>
      if readOnly && !style.lenient then .error .valueNotWritable
      else do return '\x7b' :: (← writeEntries style entries) ++ ['\x7d']
  | .date _ value =>
      if style.lenient then .ok (writeText style.asciiOnly value.text)
      else .error .valueNotWritable
  | .timestamp _ value =>
      if style.lenient then .ok (writeText style.asciiOnly (value.text ' '))
      else .error .valueNotWritable
  | .undefined =>
      if style.lenient then .ok (writeText style.asciiOnly "UNDEFINED".toList)
      else .error .valueNotWritable
termination_by structural value => value

def writeItems (style : Style) : List Value → Except Fault Text
  | [] => .ok []
  | [item] => write style item
  | item :: next :: items => do
      let first ← write style item
      return first ++ style.betweenItems ++ (← writeItems style (next :: items))
termination_by structural items => items

def writeEntries (style : Style) : List (Value × Value) → Except Fault Text
  | [] => .ok []
  | [(key, value)] => do
      let name ← keyText key
      return writeText style.asciiOnly name ++ style.betweenKeyAndValue
        ++ (← write style value)
  | (key, value) :: next :: entries => do
      let name ← keyText key
      let first ← write style value
      return writeText style.asciiOnly name ++ style.betweenKeyAndValue ++ first
        ++ style.betweenItems ++ (← writeEntries style (next :: entries))
termination_by structural entries => entries

end

end Json

end Stencil
