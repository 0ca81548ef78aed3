import Stencil.Data.Json.Read
import Stencil.Host.Yaml.Cursor
import Stencil.Host.Yaml.Fault

/-!
# Scalars in a YAML text

The three ways to write a scalar: plain, between quotes, and as a block of
lines.  A single line end inside a scalar folds to a space, more of them to one
less.
-/

namespace Stencil.Host.Yaml

/-- A line end and those that follow it, folded. -/
def fold (lineEnd breaks : Text) : Text :=
  if lineEnd ≠ ['\n'] then lineEnd ++ breaks
  else if breaks = [] then [' ']
  else breaks

namespace Plain

/-- How many characters of a plain scalar stand before the next gap; inside
brackets the characters that divide their contents end it too. -/
def length (inFlow : Bool) : Text → Nat
  | [] => 0
  | char :: text =>
      let ends (next : Char) : Bool :=
        inFlow && (next = ',' || next = '[' || next = ']' || next = '\x7b' || next = '\x7d')
      if isGap (some char) then 0
      else if char = ':' && (isGap text.head? || (text.head?.map ends).getD false) then 0
      else if ends char || (inFlow && char = '?') then 0
      else length inFlow text + 1

/-- The line ends after the first one; none if a document ends there. -/
def breaks : Nat → Cursor → Option Text × Cursor
  | 0, cursor => (some [], cursor)
  | fuel + 1, cursor =>
      match cursor.rest with
      | [] => (some [], cursor)
      | char :: _ =>
          if char = ' ' then breaks fuel cursor.step
          else if !isBreak char then (some [], cursor)
          else if cursor.step.isAtDocument then (none, cursor.step)
          else
            let (later, cursor) := breaks fuel cursor.step
            (later.map (breakText char ++ ·), cursor)

/-- A gap inside or after a scalar: what it says, if the scalar may go on, and
whether it holds a line end. -/
structure Gap where
  content : Option Text
  isBroken : Bool
  cursor : Cursor

/-- The gap that begins here. -/
def gap (cursor : Cursor) : Gap :=
  let spaces := cursor.rest.takeWhile (· = ' ')
  let cursor := cursor.advance spaces.length
  match cursor.rest with
  | char :: _ =>
      if !isBreak char then ⟨if spaces = [] then none else some spaces, false, cursor⟩
      else if cursor.step.isAtDocument then ⟨none, true, cursor.step⟩
      else
        let (later, after) := breaks cursor.rest.length cursor.step
        ⟨later.map (fold (breakText char)), true, after⟩
  | [] => ⟨if spaces = [] then none else some spaces, false, cursor⟩

/-- A plain scalar from here on: its text, whether its last gap holds a line
end, and what follows.  Outside brackets its lines are indented by at least
`indent` columns. -/
def read (inFlow : Bool) (indent : Int) :
    Nat → Text → Bool → Cursor → Text × Bool × Cursor
  | 0, _, isBroken, cursor => ([], isBroken, cursor)
  | fuel + 1, before, isBroken, cursor =>
      let count := length inFlow cursor.rest
      if cursor.head? = some '#' || count = 0 then ([], isBroken, cursor)
      else
        let chunk := before ++ cursor.rest.take count
        let after := gap (cursor.advance count)
        match after.content with
        | none => (chunk, after.isBroken, after.cursor)
        | some content =>
            if after.cursor.head? = some '#'
                || (!inFlow && (after.cursor.column : Int) < indent) then
              (chunk, after.isBroken, after.cursor)
            else
              let (later, isBroken, cursor) :=
                read inFlow indent fuel content after.isBroken after.cursor
              (chunk ++ later, isBroken, cursor)

end Plain

namespace Quoted

/-- Line ends after the first one, with blanks before them left out. -/
def breaks : Nat → Cursor → Except ReadFault (Text × Cursor)
  | 0, _ => .error .malformed
  | fuel + 1, cursor =>
      if cursor.isAtDocument then .error .malformed
      else
        let cursor := cursor.skipWhile fun char => char = ' ' || char = '\t'
        match cursor.rest with
        | char :: _ =>
            if isBreak char then do
              let (later, cursor) ← breaks fuel cursor.step
              return (breakText char ++ later, cursor)
            else .ok ([], cursor)
        | [] => .ok ([], cursor)

/-- The gap that begins here; the text may not end in it. -/
def gap (cursor : Cursor) : Except ReadFault (Text × Cursor) :=
  let blanks := cursor.rest.takeWhile fun char => char = ' ' || char = '\t'
  let cursor := cursor.advance blanks.length
  match cursor.rest with
  | [] => .error .malformed
  | char :: _ =>
      if isBreak char then do
        let (later, cursor) ← breaks (cursor.rest.length + 1) cursor.step
        return (fold (breakText char) later, cursor)
      else .ok (blanks, cursor)

/-- The characters that stand for others after a backslash. -/
def escapes : List (Char × Char) :=
  [('0', '\x00'), ('a', '\x07'), ('b', '\x08'), ('t', '\t'), ('\t', '\t'), ('n', '\n'),
   ('v', '\x0b'), ('f', '\x0c'), ('r', '\r'), ('e', '\x1b'), (' ', ' '), ('"', '"'),
   ('\\', '\\'), ('/', '/'), ('N', '\x85'), ('_', '\xa0'), ('L', '\u2028'), ('P', '\u2029')]

/-- How many hexadecimal digits follow a letter after a backslash. -/
def codeLengths : List (Char × Nat) :=
  [('x', 2), ('u', 4), ('U', 8)]

/-- The character with a code. -/
def charOfCode (code : Nat) : Except ReadFault Char :=
  if code ≤ 0x10FFFF then .ok (Json.charOf code)
  else if code < 0x80000000 then .error .noCharacter
  else .error .codeTooLarge

/-- The code that the letter of an escape announces, and how many characters
both take. -/
def code? (text : Text) : Option (Nat × Nat) :=
  match text with
  | [] => none
  | letter :: rest => do
      let count ← codeLengths.lookup letter
      let digits ← (rest.take count).mapM Text.hexValue?
      if digits.length = count then some (Text.ofDigits 16 digits, count + 1) else none

/-- The character that a code and the escape after it make up together, and how
many characters that escape takes. -/
def pair? (high : Nat) (text : Text) : Option (Char × Nat) := do
  let (low, count) ← code? (← Text.after? ['\\'] text)
  if Json.isHighHalf high && Json.isLowHalf low then some (Json.ofHalves high low, count + 1)
  else none

/-- The character of an escape, without its backslash, and how many characters
it takes. -/
def escape (text : Text) : Except ReadFault (Char × Nat) :=
  match text.head?.bind (fun letter => escapes.lookup letter), code? text with
  | some char, _ => .ok (char, 1)
  | none, some (code, count) =>
      match pair? code (text.drop count) with
      | some (char, further) => .ok (char, count + further)
      | none => (charOfCode code).map fun char => (char, count)
  | none, none => .error .malformed

/-- A scalar between double quotes, from after the first of them on. -/
def readDouble : Nat → Cursor → Except ReadFault (Text × Cursor)
  | 0, _ => .error .malformed
  | fuel + 1, cursor =>
      match cursor.rest with
      | [] => .error .malformed
      | char :: rest =>
          if char = '"' then .ok ([], cursor.step)
          else if char = '\\' then
            if cursor.step.isAtBreak then do
              let (before, cursor) ← breaks (rest.length + 1) cursor.step.step
              let (later, cursor) ← readDouble fuel cursor
              return (before ++ later, cursor)
            else do
              let (escaped, count) ← escape rest
              let (later, cursor) ← readDouble fuel (cursor.advance (count + 1))
              return (escaped :: later, cursor)
          else if isGap (some char) then do
            let (before, cursor) ← gap cursor
            let (later, cursor) ← readDouble fuel cursor
            return (before ++ later, cursor)
          else do
            let (later, cursor) ← readDouble fuel cursor.step
            return (char :: later, cursor)

/-- A scalar between single quotes, from after the first of them on; two of
them stand for one. -/
def readSingle : Nat → Cursor → Except ReadFault (Text × Cursor)
  | 0, _ => .error .malformed
  | fuel + 1, cursor =>
      match cursor.rest with
      | [] => .error .malformed
      | char :: _ =>
          if char = '\'' then
            if cursor.second? = some '\'' then do
              let (later, cursor) ← readSingle fuel (cursor.advance 2)
              return ('\'' :: later, cursor)
            else .ok ([], cursor.step)
          else if isGap (some char) then do
            let (before, cursor) ← gap cursor
            let (later, cursor) ← readSingle fuel cursor
            return (before ++ later, cursor)
          else do
            let (later, cursor) ← readSingle fuel cursor.step
            return (char :: later, cursor)

end Quoted

namespace Lines

/-- What becomes of the line ends after the last line. -/
inductive Chomping where
  | clip
  | strip
  | keep
  deriving DecidableEq, Repr

/-- What follows the mark of a block of lines. -/
structure Header where
  chomping : Chomping
  increment : Option Nat

/-- The chomping that a character asks for. -/
def chomping? : Option Char → Option Chomping
  | some '+' => some .keep
  | some '-' => some .strip
  | _ => none

/-- The indentation that a digit asks for. -/
def increment? : Option Char → Option Nat
  | some char =>
      if Text.isDigit char then some (char.toNat - '0'.toNat) else none
  | none => none

/-- The header of a block of lines, in either order. -/
def header (cursor : Cursor) : Header × Cursor :=
  match chomping? cursor.head?, increment? cursor.head? with
  | some chomping, _ =>
      match increment? cursor.second? with
      | some count => (⟨chomping, some count⟩, cursor.advance 2)
      | none => (⟨chomping, none⟩, cursor.step)
  | none, some count =>
      match chomping? cursor.second? with
      | some chomping => (⟨chomping, some count⟩, cursor.advance 2)
      | none => (⟨.clip, some count⟩, cursor.step)
  | none, none => (⟨.clip, none⟩, cursor)

/-- Passes the rest of the line of the header, which may hold a comment. -/
def restOfLine (cursor : Cursor) : Except ReadFault Cursor :=
  let cursor := (cursor.skipWhile (· = ' ')).skipComment
  if cursor.isAtEnd then .ok cursor
  else if cursor.isAtBreak then .ok cursor.step
  else .error .malformed

/-- Empty lines before the first line, and the deepest column among them. -/
def leading : Nat → Nat → Cursor → Text × Nat × Cursor
  | 0, deepest, cursor => ([], deepest, cursor)
  | fuel + 1, deepest, cursor =>
      match cursor.rest with
      | char :: _ =>
          if char = ' ' then
            leading fuel (max deepest cursor.step.column) cursor.step
          else if isBreak char then
            let (later, deepest, cursor) := leading fuel deepest cursor.step
            (breakText char ++ later, deepest, cursor)
          else ([], deepest, cursor)
      | [] => ([], deepest, cursor)

/-- Passes the indentation of a line, or as much of it as there is. -/
def indentation (indent : Nat) (cursor : Cursor) : Cursor :=
  cursor.advance
    (min (indent - cursor.column) (cursor.rest.takeWhile (· = ' ')).length)

def breaks (indent : Nat) : Nat → Cursor → Text × Cursor
  | 0, cursor => ([], cursor)
  | fuel + 1, cursor =>
      let cursor := indentation indent cursor
      match cursor.rest with
      | char :: _ =>
          if isBreak char then
            let (later, cursor) := breaks indent fuel cursor.step
            (breakText char ++ later, cursor)
          else ([], cursor)
      | [] => ([], cursor)

/-- What lines say: their text, the last line end, and the empty lines after
it. -/
structure Content where
  text : Text
  lineEnd : Text
  breaks : Text
  cursor : Cursor

def isAtBlank (cursor : Cursor) : Bool :=
  cursor.head? = some ' ' || cursor.head? = some '\t'

/-- The lines from here on, which empty lines precede.  Lines that begin with a
blank are not folded. -/
def read (folds : Bool) (indent : Nat) : Nat → Text → Cursor → Content
  | 0, before, cursor => ⟨[], [], before, cursor⟩
  | fuel + 1, before, cursor =>
      if cursor.column ≠ indent || cursor.isAtEnd then ⟨[], [], before, cursor⟩
      else
        let line := cursor.rest.takeWhile fun char => !isBreak char
        let ended := cursor.advance line.length
        let lineEnd := (ended.head?.map breakText).getD []
        let (between, next) := breaks indent (ended.rest.length + 1) ended.step
        if next.column ≠ indent || next.isAtEnd then
          ⟨before ++ line, lineEnd, between, next⟩
        else
          let isFolded := folds && lineEnd = ['\n'] && !isAtBlank cursor && !isAtBlank next
          let joint := if !isFolded then lineEnd else if between = [] then [' '] else []
          let later := read folds indent fuel between next
          { later with text := before ++ line ++ joint ++ later.text }

/-- A block of lines, from after its mark on, inside a collection that is
indented by `outer` columns. -/
def readBlock (folds : Bool) (outer : Int) (cursor : Cursor) :
    Except ReadFault (Text × Cursor) := do
  let (header, cursor) := header cursor
  if header.increment = some 0 then .error .malformed
  else if !(cursor.head? = some ' ' || cursor.isAtBreak || cursor.isAtEnd) then
    .error .malformed
  else
    let cursor ← restOfLine cursor
    let least := (max 1 (outer + 1)).toNat
    let fuel := cursor.rest.length + 1
    let (indent, before, cursor) := match header.increment with
      | some count =>
          let indent := least + count - 1
          (indent, breaks indent fuel cursor)
      | none =>
          let (before, deepest, cursor) := leading fuel 0 cursor
          (max least deepest, before, cursor)
    let content := read folds indent fuel before cursor
    let text := match header.chomping with
      | .strip => content.text
      | .clip => content.text ++ content.lineEnd
      | .keep => content.text ++ content.lineEnd ++ content.breaks
    return (text, content.cursor)

end Lines

end Stencil.Host.Yaml
