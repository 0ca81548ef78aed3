import Stencil.Calendar.Moment

/-!
# Reading timestamps

The ISO 8601 forms of a timestamp: a calendar date or a week date, with or
without hyphens; after any one character a time, with or without colons, with
a fraction of a second; and a zone, `Z` or an offset.  Digits are ASCII digits.
An ASCII character after the last part of a time, and anything after the sixth
digit of a fraction, is tolerated before a zone, and nowhere else.
-/

namespace Stencil.Iso

/-- A number of exactly `count` digits. -/
def digits? : Nat → Text → Option (Nat × Text) :=
  go 0
where
  /-- Reads the digits after those that have the value given. -/
  go (value : Nat) : Nat → Text → Option (Nat × Text)
    | 0, text => some (value, text)
    | _ + 1, [] => none
    | count + 1, char :: text =>
        if Text.isDigit char then go (value * 10 + (char.toNat - '0'.toNat)) count text
        else none

/-- Whether the text has a character at a position, and it is the one given. -/
def isAt (text : Text) (position : Nat) (char : Char) : Bool :=
  text[position]? = some char

/-- How many characters the date takes at the beginning of a text.  After a
hyphenated week, a hyphen and two digits are taken for a time. -/
def dateLength? (text : Text) : Option Nat :=
  if text.length < 7 then none
  else if text.length = 7 then some 7
  else if isAt text 4 '-' then
    if isAt text 5 'W' then
      if isAt text 8 '-' then
        if text.length = 9 then none
        else match text[10]? with
          | some char => some (if Text.isDigit char then 8 else 10)
          | none => some 10
      else some 8
    else some 10
  else if isAt text 4 'W' then
    let position := 7 + ((text.drop 7).takeWhile Text.isDigit).length
    some (if position < 9 then position else if position % 2 = 0 then 7 else 8)
  else some 8

/-- A hyphen, if hyphens are used. -/
def hyphen? (hyphenated : Bool) (text : Text) : Option Text :=
  if !hyphenated then some text
  else match text with
    | '-' :: rest => some rest
    | _ => none

/-- The date that takes the first `length` characters of a text. -/
def date? (length : Nat) (text : Text) : Option Date := do
  let (year, rest) ← digits? 4 text
  let hyphenated := rest.head? = some '-'
  match if hyphenated then rest.drop 1 else rest with
  | 'W' :: rest =>
      let (week, rest) ← digits? 2 rest
      if length > (if hyphenated then 8 else 7) then
        let rest ← hyphen? hyphenated rest
        let (day, _) ← digits? 1 rest
        Date.ofWeek? year week day
      else Date.ofWeek? year week 1
  | rest =>
      let (month, rest) ← digits? 2 rest
      let rest ← hyphen? hyphenated rest
      let (day, _) ← digits? 2 rest
      Date.ofFields? year month day

/-- The fields of a time: hour, minute and second as far as they are there,
the microseconds, and whether the text was read to its end. -/
structure Fields where
  parts : List Nat
  microsecond : Nat
  complete : Bool

/-- Whether nothing follows; a null character ends a text. -/
def atEnd : Text → Bool
  | [] => true
  | char :: _ => char = '\x00'

/-- A fraction of a second: the first six digits count. -/
def fraction? (text : Text) : Option Fields := do
  let count := min 6 text.length
  let (value, rest) ← digits? count text
  some ⟨[], value * Nat.pow 10 (6 - count), atEnd (rest.dropWhile Text.isDigit)⟩

/-- Up to `steps` parts of two digits, and then a fraction.  The character
after the first part decides whether colons separate the parts. -/
def fields? (first separated : Bool) : Nat → Text → Option Fields
  | 0, text => fraction? text
  | steps + 1, text => do
      let (part, rest) ← digits? 2 text
      let more (fields : Fields) : Fields := { fields with parts := part :: fields.parts }
      match rest with
      | [] => some ⟨[part], 0, true⟩
      | [mark] => if mark.toNat < 128 then some ⟨[part], 0, mark = '\x00'⟩ else none
      | mark :: later =>
          let separated := if first then mark = ':' else separated
          if separated && mark = ':' then (fields? false separated steps later).map more
          else if mark = '.' || mark = ',' then (fraction? later).map more
          else if separated then none
          else (fields? false separated steps (mark :: later)).map more

/-- The part of a time at a position, nothing written being zero. -/
def Fields.part (fields : Fields) (position : Nat) : Nat :=
  fields.parts.getD position 0

/-- The time of day of the fields. -/
def Fields.clock? (fields : Fields) : Option Clock :=
  Clock.ofFields? (fields.part 0) (fields.part 1) (fields.part 2) fields.microsecond

/-- The offset of the fields in microseconds; fractions alone make none. -/
def Fields.offset? (negative : Bool) (fields : Fields) : Option Int :=
  let seconds := (fields.part 0 * 60 + fields.part 1) * 60 + fields.part 2
  if seconds = 0 then some 0
  else
    let magnitude := seconds * 1000000 + fields.microsecond
    if dayLength ≤ magnitude then none
    else some (if negative then -(magnitude : Int) else magnitude)

def time? (text : Text) : Option (Clock × Option Int) := do
  let isMark (char : Char) : Bool := char = '+' || char = '-' || char = 'Z'
  let fields ← fields? true true 3 (text.takeWhile fun char => !isMark char)
  match text.dropWhile fun char => !isMark char with
  | [] => if fields.complete then some (← fields.clock?, none) else none
  | 'Z' :: rest => if atEnd rest then some (← fields.clock?, some 0) else none
  | sign :: rest =>
      let zone ← fields? true true 3 rest
      if zone.complete then
        let offset ← zone.offset? (sign = '-')
        some (← fields.clock?, some offset)
      else none

def timestamp? (text : Text) : Option Timestamp := do
  let length ← dateLength? text
  let date ← date? length text
  match text.drop length with
  | [] => some ⟨⟨date, Clock.midnight⟩, none⟩
  | _ :: rest =>
      let (clock, offset) ← time? rest
      some ⟨⟨date, clock⟩, offset⟩

end Stencil.Iso
