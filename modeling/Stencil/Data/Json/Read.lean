import Stencil.Data.Fault
import Stencil.Data.Value
import Stencil.Data.Entries

/-!
# Reading JSON

The value that a JSON text denotes.  Besides the standard's values, the words
for infinity and for "not a number" are read.  Of a key that is given twice
the last value counts.  Every part of a value is shorter than the text it is
read from, so reading ends.
-/

namespace Stencil.Json

/-- Why a text is no JSON value. -/
inductive ReadFault where
  | malformed
  | tooManyDigits
  deriving DecidableEq, Repr

/-- White space between the parts of a value. -/
def isSpace (char : Char) : Bool :=
  char = ' ' || char = '\t' || char = '\n' || char = '\r'

def skipSpace (text : Text) : Text :=
  text.dropWhile isSpace

/-- Four hexadecimal digits. -/
def code? : Text → Option (Nat × Text)
  | first :: second :: third :: fourth :: rest => do
      let digits ← [first, second, third, fourth].mapM Text.hexValue?
      some (Text.ofDigits 16 digits, rest)
  | _ => none

/-- Whether a code is the first half of a pair. -/
def isHighHalf (code : Nat) : Bool :=
  0xD800 ≤ code && code < 0xDC00

def isLowHalf (code : Nat) : Bool :=
  0xDC00 ≤ code && code < 0xE000

/-- The character of a pair. -/
def ofHalves (high low : Nat) : Char :=
  Char.ofNat (0x10000 + (high - 0xD800) * 1024 + (low - 0xDC00))

/-- The character of a code point; a lone half of a pair is replaced. -/
def charOf (code : Nat) : Char :=
  if isHighHalf code || isLowHalf code then Char.ofNat 0xFFFD else Char.ofNat code

/-- The character of an escape with a code, which may take a second escape to
complete a pair. -/
def escapedChar? (text : Text) : Option (Char × Text) := do
  let (high, rest) ← code? text
  match rest with
  | '\\' :: 'u' :: later =>
      if isHighHalf high then
        let (low, later) ← code? later
        if isLowHalf low then some (ofHalves high low, later) else some (charOf high, rest)
      else some (charOf high, rest)
  | _ => some (charOf high, rest)

/-- The character of an escape with one letter. -/
def escapedLetter? : Char → Option Char
  | '"' => some '"'
  | '\\' => some '\\'
  | '/' => some '/'
  | 'b' => some '\x08'
  | 'f' => some '\x0c'
  | 'n' => some '\n'
  | 'r' => some '\r'
  | 't' => some '\t'
  | _ => none

/-- The characters of a string up to its closing quote. -/
def readText? : Nat → Text → Option (Text × Text)
  | 0, _ => none
  | _ + 1, [] => none
  | fuel + 1, char :: text =>
      if char = '"' then some ([], text)
      else if char = '\\' then
        match text with
        | 'u' :: text => do
            let (escaped, text) ← escapedChar? text
            let (later, rest) ← readText? fuel text
            some (escaped :: later, rest)
        | letter :: text => do
            let escaped ← escapedLetter? letter
            let (later, rest) ← readText? fuel text
            some (escaped :: later, rest)
        | [] => none
      else if char.toNat < 0x20 then none
      else do
        let (later, rest) ← readText? fuel text
        some (char :: later, rest)

/-- The values of the leading digits of a text. -/
def digits (text : Text) : List Nat × Text :=
  ((text.takeWhile Text.isDigit).map fun char => char.toNat - '0'.toNat,
    text.dropWhile Text.isDigit)

/-- The digits after a point, if there are some. -/
def readFraction (text : Text) : List Nat × Text :=
  match text with
  | '.' :: rest =>
      match digits rest with
      | ([], _) => ([], text)
      | found => found
  | _ => ([], text)

/-- The power of ten, if one is written with its digits. -/
def readExponent (text : Text) : Option Int × Text :=
  match text with
  | mark :: rest =>
      if mark = 'e' || mark = 'E' then
        let (negative, rest) := Text.signed rest
        match digits rest with
        | ([], _) => (none, text)
        | (found, rest) =>
            let power : Int := Text.ofDigits 10 found
            (some (if negative then -power else power), rest)
      else (none, text)
  | [] => (none, [])

/-- A number with the sign given; a number without fraction and exponent is an
integer. -/
def readNumber (negative : Bool) (text : Text) : Except ReadFault (Value × Text) :=
  let (whole, rest) :=
    match text with
    | '0' :: rest => ([0], rest)
    | _ => digits text
  if whole = [] then .error .malformed
  else
    let (part, rest) := readFraction rest
    let (power, rest) := readExponent rest
    if part = [] ∧ power = none then
      if whole.length ≤ maxDigits then
        let number : Int := Text.ofDigits 10 whole
        .ok (.int (if negative then -number else number), rest)
      else .error .tooManyDigits
    else
      let digits := whole ++ part
      .ok (.float (Binary64.ofDecimal negative (Text.ofDigits 10 digits) digits.length
        (power.getD 0 - part.length)), rest)

def words : List (Text × Value) :=
  [("null".toList, .null), ("true".toList, .bool true), ("false".toList, .bool false),
   ("NaN".toList, .nan Value.jsonNotANumber), ("Infinity".toList, .float (.infinite false)),
   ("-Infinity".toList, .float (.infinite true))]

def readWord? (text : Text) : Option (Value × Text) :=
  words.findSome? fun (word, value) => (Text.after? word text).map fun rest => (value, rest)

mutual

/-- The value at the beginning of a text, and what follows it. -/
def readValue : Nat → Text → Except ReadFault (Value × Text)
  | 0, _ => .error .malformed
  | fuel + 1, text =>
      match text with
      | '"' :: rest =>
          match readText? (rest.length + 1) rest with
          | some (content, rest) => .ok (.text content, rest)
          | none => .error .malformed
      | '[' :: rest =>
          match skipSpace rest with
          | ']' :: rest => .ok (.list 0 [], rest)
          | rest => do
              let (items, rest) ← readItems fuel rest
              return (.list 0 items, rest)
      | '\x7b' :: rest =>
          match skipSpace rest with
          | '\x7d' :: rest => .ok (.map 0 false [], rest)
          | rest => do
              let (entries, rest) ← readEntries fuel [] rest
              return (.map 0 false entries, rest)
      | _ =>
          match readWord? text with
          | some found => .ok found
          | none =>
              match text with
              | '-' :: rest => readNumber true rest
              | _ => readNumber false text

/-- The items of a list up to its closing bracket. -/
def readItems : Nat → Text → Except ReadFault (List Value × Text)
  | 0, _ => .error .malformed
  | fuel + 1, text => do
      let (item, rest) ← readValue fuel text
      match skipSpace rest with
      | ']' :: rest => return ([item], rest)
      | ',' :: rest =>
          let (items, rest) ← readItems fuel (skipSpace rest)
          return (item :: items, rest)
      | _ => .error .malformed

/-- The entries of a mapping up to its closing brace, added to those that were
read before. -/
def readEntries : Nat → Entries → Text → Except ReadFault (Entries × Text)
  | 0, _, _ => .error .malformed
  | fuel + 1, earlier, text =>
      match text with
      | '"' :: rest =>
          match readText? (rest.length + 1) rest with
          | none => .error .malformed
          | some (key, rest) =>
              match skipSpace rest with
              | ':' :: rest => do
                  let (value, rest) ← readValue fuel (skipSpace rest)
                  let entries := earlier.set key value
                  match skipSpace rest with
                  | '\x7d' :: rest => return (entries, rest)
                  | ',' :: rest => readEntries fuel entries (skipSpace rest)
                  | _ => .error .malformed
              | _ => .error .malformed
      | _ => .error .malformed

end

/-- The value that a whole text denotes. -/
def read (text : Text) : Except ReadFault Value := do
  let (value, rest) ← readValue (2 * text.length + 2) (skipSpace text)
  if skipSpace rest = [] then return value else .error .malformed

end Stencil.Json
