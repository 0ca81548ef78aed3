import Stencil.Calendar.Moment
import Stencil.Data.Value
import Stencil.Host.Yaml.Fault
import Stencil.Number.Reading

/-!
# What plain scalars mean

A plain scalar is a truth value, a number, nothing, a date or a timestamp if it
has the form of one, and a text otherwise.  Numbers may have underscores
anywhere after their first digit, and colons between base-60 places.
-/

namespace Stencil.Host.Yaml.Meaning

/-- The words for truth values and for nothing. -/
def words : List (Text × Value) :=
  (["yes", "Yes", "YES", "true", "True", "TRUE", "on", "On", "ON"].map fun word =>
      (word.toList, Value.bool true))
    ++ (["no", "No", "NO", "false", "False", "FALSE", "off", "Off", "OFF"].map fun word =>
      (word.toList, Value.bool false))
    ++ (["", "~", "null", "Null", "NULL"].map fun word => (word.toList, Value.null))

def infinities : List Text :=
  [".inf".toList, ".Inf".toList, ".INF".toList]

def notNumbers : List Text :=
  [".nan".toList, ".NaN".toList, ".NAN".toList]

def withoutUnderscores (text : Text) : Text :=
  text.filter (· ≠ '_')

/-- Whether a text consists of characters of one kind and underscores, and has
at least one character. -/
def isSome (test : Char → Bool) (text : Text) : Bool :=
  text ≠ [] && text.all fun char => test char || char = '_'

/-- Whether a text is a digit that is followed by digits and underscores. -/
def isWhole (text : Text) : Bool :=
  (text.head?.map Text.isDigit).getD false && isSome Text.isDigit text

/-- Whether a text is a place of a base-60 number after the first one. -/
def isSixtieth (text : Text) : Bool :=
  match text with
  | [digit] => Text.isDigit digit
  | [ten, digit] => '0' ≤ ten && ten ≤ '5' && Text.isDigit digit
  | _ => false

/-- The values of the digits of a text, whatever their base. -/
def digitValues (text : Text) : List Nat :=
  (withoutUnderscores text).map fun char =>
    if Text.isDigit char then char.toNat - '0'.toNat
    else char.toLower.toNat - 'a'.toNat + 10

/-- The number that digits of a base denote. -/
def number (base : Nat) (text : Text) : Except ReadFault Nat :=
  let digits := digitValues text
  if digits = [] then .error .noDigits
  else if base = 10 ∧ digits.length > maxDigits then .error .tooManyDigits
  else .ok (Text.ofDigits base digits)

def isOctal (char : Char) : Bool :=
  '0' ≤ char && char ≤ '7'

def isHexadecimal (char : Char) : Bool :=
  Text.isDigit char || ('a' ≤ char && char ≤ 'f') || ('A' ≤ char && char ≤ 'F')

/-- The magnitude of an integer, if the text has the form of one. -/
def magnitude? (text : Text) : Option (Except ReadFault Nat) :=
  match text with
  | ['0'] => some (.ok 0)
  | '0' :: 'b' :: digits =>
      if isSome (fun char => char = '0' || char = '1') digits then some (number 2 digits)
      else none
  | '0' :: 'x' :: digits =>
      if isSome isHexadecimal digits then some (number 16 digits) else none
  | '0' :: digits => if isSome isOctal digits then some (number 8 ('0' :: digits)) else none
  | _ =>
      match Text.split ':' text with
      | [whole] => if isWhole whole then some (number 10 whole) else none
      | whole :: places =>
          if isWhole whole && places.all isSixtieth then
            some do
              let places ← (whole :: places).mapM (number 10)
              return Text.ofDigits 60 places
          else none
      | [] => none

def integer? (text : Text) : Option (Except ReadFault Value) :=
  let (negative, body) := Text.signed text
  (magnitude? body).map fun outcome =>
    outcome.map fun number => .int (if negative then -(number : Int) else number)

/-- Whether a text is a power of ten with its sign, or empty. -/
def isExponent (text : Text) : Bool :=
  match text with
  | [] => true
  | mark :: sign :: digits =>
      (mark = 'e' || mark = 'E') && (sign = '+' || sign = '-') && digits ≠ []
        && digits.all Text.isDigit
  | _ => false

/-- Whether a text is digits and underscores, and perhaps a power of ten. -/
def isFraction (text : Text) : Bool :=
  isExponent (text.dropWhile fun char => Text.isDigit char || char = '_')

/-- The number that decimal digits with a point denote. -/
def decimal (text : Text) : Binary64 :=
  match Text.toReading? (withoutUnderscores text) with
  | some (.number number) => number
  | _ => .finite false 0 (-1074)

/-- What a place of a base-60 number counts, the last one being place zero. -/
def placeValue (place : Nat) : Except ReadFault Binary64 :=
  match Binary64.ofInt? (Nat.pow 60 place) with
  | some value => .ok value
  | none => .error .placeTooLarge

/-- The number that base-60 places denote, the last one first.  Each place is
rounded and counted before the next one. -/
def sexagesimal (places : List Text) : Except ReadFault Binary64 :=
  places.zipIdx.foldlM
    (fun sum (digits, place) => do
      return sum.plus ((decimal digits).times (← placeValue place)))
    (.finite false 0 (-1074))

/-- The magnitude of a number with a point, if the text has the form of one;
a number that begins with the point has no sign. -/
def fractional? (signed : Bool) (text : Text) : Option (Except ReadFault Binary64) :=
  match Text.split ':' text with
  | [_] =>
      match Text.cut? ['.'] text with
      | some ([], rest) =>
          if !signed && (rest.head?.map Text.isDigit).getD false && isFraction rest then
            some (.ok (decimal text))
          else none
      | some (whole, rest) =>
          if isWhole whole && isFraction rest then some (.ok (decimal text)) else none
      | none => none
  | places =>
      match Text.cut? ['.'] (places.getLast?.getD []) with
      | some (place, rest) =>
          if isWhole (places.head?.getD []) && (places.tail.dropLast ++ [place]).all isSixtieth
              && rest.all fun char => Text.isDigit char || char = '_' then
            some (sexagesimal places.reverse)
          else none
      | none => none

def float? (text : Text) : Option (Except ReadFault Value) :=
  let (negative, body) := Text.signed text
  let isSigned := body.length ≠ text.length
  if infinities.contains body then some (.ok (.float (.infinite negative)))
  else if notNumbers.contains text then some (.ok (.nan Value.yamlNotANumber))
  else (fractional? isSigned body).map fun outcome =>
    outcome.map fun number => .float (if negative then number.negate else number)

/-- One or two digits. -/
def field? (text : Text) : Option (Nat × Text) :=
  let digits := (text.take 2).takeWhile Text.isDigit
  if digits = [] then none
  else some (Text.ofDigits 10 (digitValues digits), text.drop digits.length)

/-- Exactly some digits. -/
def digits? (count : Nat) (text : Text) : Option (Nat × Text) :=
  let digits := (text.take count).takeWhile Text.isDigit
  if digits.length = count then some (Text.ofDigits 10 (digitValues digits), text.drop count)
  else none

/-- The microseconds of a fraction of a second, of which six digits count. -/
def fraction (text : Text) : Nat × Text :=
  match text with
  | '.' :: rest =>
      let digits := rest.takeWhile Text.isDigit
      (Text.ofDigits 10 (digitValues ((digits ++ List.replicate 6 '0').take 6)),
        rest.drop digits.length)
  | _ => (0, text)

/-- The parts of a zone: a letter, or a sign with hours and minutes. -/
inductive Zone where
  | universal
  | offset (negative : Bool) (hours minutes : Nat)

/-- A zone that is the rest of a text. -/
def zone? (text : Text) : Option (Option Zone) :=
  match text.dropWhile fun char => char = ' ' || char = '\t' with
  | [] => if text = [] then some none else none
  | ['Z'] => some (some .universal)
  | sign :: rest =>
      if sign = '+' ∨ sign = '-' then do
        let (hours, rest) ← field? rest
        match rest with
        | [] => some (some (.offset (sign = '-') hours 0))
        | ':' :: rest => do
            let (minutes, rest) ← digits? 2 rest
            if rest = [] then some (some (.offset (sign = '-') hours minutes)) else none
        | _ => none
      else none

namespace Zone

/-- The offset of a zone in microseconds, less than a day. -/
def offset? : Zone → Option Int
  | universal => some 0
  | offset negative hours minutes =>
      if hours * 60 + minutes < 24 * 60 then
        let offset : Int := (hours * 60 + minutes : Nat) * 60000000
        some (if negative then -offset else offset)
      else none

end Zone

structure Time where
  hour : Nat
  minute : Nat
  second : Nat
  microsecond : Nat
  zone : Option Zone

/-- A time that is the rest of a text, after a letter or blanks. -/
def time? (text : Text) : Option Time := do
  let isSpace (char : Char) : Bool := char = ' ' || char = '\t'
  let rest ← match text with
    | mark :: rest =>
        if mark = 'T' ∨ mark = 't' then some rest
        else if isSpace mark then some (rest.dropWhile isSpace)
        else none
    | [] => none
  let (hour, rest) ← field? rest
  let (minute, rest) ← digits? 2 (← Text.after? [':'] rest)
  let (second, rest) ← digits? 2 (← Text.after? [':'] rest)
  let (microsecond, rest) := fraction rest
  some ⟨hour, minute, second, microsecond, ← zone? rest⟩

def dateOf (year month day : Nat) : Except ReadFault Value :=
  match Date.ofFields? year month day with
  | some date => .ok (.date 0 date)
  | none => .error .dateNotReal

def timestampOf (year month day : Nat) (time : Time) : Except ReadFault Value :=
  let offset : Option (Option Int) := match time.zone with
    | none => some none
    | some zone => zone.offset?.map some
  match Date.ofFields? year month day,
      Clock.ofFields? time.hour time.minute time.second time.microsecond, offset with
  | some date, some clock, some offset => .ok (.timestamp 0 ⟨⟨date, clock⟩, offset⟩)
  | _, _, _ => .error .dateNotReal

/-- The date or the timestamp that a text denotes, if it has the form of one.
A date without a time has two digits for month and day. -/
def moment? (text : Text) : Option (Except ReadFault Value) := do
  let (year, rest) ← digits? 4 text
  let afterYear ← Text.after? ['-'] rest
  let (month, rest) ← field? afterYear
  let afterMonth ← Text.after? ['-'] rest
  let (day, rest) ← field? afterMonth
  if rest = [] then
    if text.length = 10 then some (dateOf year month day) else none
  else some (timestampOf year month day (← time? rest))

def ofPlain (text : Text) : Except ReadFault Value :=
  match words.lookup text with
  | some value => .ok value
  | none => ((float? text).or ((integer? text).or (moment? text))).getD (.ok (.text text))

end Stencil.Host.Yaml.Meaning
