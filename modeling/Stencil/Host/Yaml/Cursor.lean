import Stencil.Text.Basic

/-!
# Positions in a YAML text

A cursor is the rest of a text with the position it begins at.  Layout depends
on lines and columns, so every character that is passed moves the position.
-/

namespace Stencil.Host.Yaml

/-- Whether a character ends a line. -/
def isBreak (char : Char) : Bool :=
  char = '\n' || char = '\x85' || char = '\u2028' || char = '\u2029'

/-- The line end that a character stands for in a scalar. -/
def breakText (char : Char) : Text :=
  if char = '\x85' then ['\n'] else [char]

/-- Whether a character may stand in a text. -/
def isPrintable (char : Char) : Bool :=
  let code := char.toNat
  code = 0x09 || code = 0x0A || code = 0x0D || (0x20 ≤ code && code ≤ 0x7E) || code = 0x85
    || (0xA0 ≤ code && code ≤ 0xFFFD) || 0x10000 ≤ code

/-- Whether a token may end before this character, or at the end of a text. -/
def isGap : Option Char → Bool
  | none => true
  | some char => char = ' ' || char = '\t' || isBreak char

/-- The rest of a text and its position. -/
structure Cursor where
  rest : Text
  index : Nat
  line : Nat
  column : Nat

namespace Cursor

def start (text : Text) : Cursor := ⟨text, 0, 0, 0⟩

def head? (cursor : Cursor) : Option Char :=
  cursor.rest.head?

def second? (cursor : Cursor) : Option Char :=
  cursor.rest.tail.head?

/-- Passes one character; a byte order mark takes no column. -/
def step : Cursor → Cursor
  | ⟨[], index, line, column⟩ => ⟨[], index, line, column⟩
  | ⟨char :: rest, index, line, column⟩ =>
      if isBreak char then ⟨rest, index + 1, line + 1, 0⟩
      else ⟨rest, index + 1, line, if char = '\uFEFF' then column else column + 1⟩

def advance : Nat → Cursor → Cursor
  | 0, cursor => cursor
  | count + 1, cursor => advance count cursor.step

/-- Passes the characters at the beginning that a test accepts. -/
def skipWhile (test : Char → Bool) (cursor : Cursor) : Cursor :=
  cursor.advance (cursor.rest.takeWhile test).length

/-- Whether a line of three equal characters begins here. -/
def isAtLine (mark : Char) (cursor : Cursor) : Bool :=
  Text.startsWith cursor.rest [mark, mark, mark] && isGap cursor.rest[3]?

/-- Whether the mark between two documents begins here. -/
def isAtDocument (cursor : Cursor) : Bool :=
  cursor.isAtLine '-' || cursor.isAtLine '.'

def isAtBreak (cursor : Cursor) : Bool :=
  (cursor.head?.map isBreak).getD false

def isAtEnd (cursor : Cursor) : Bool :=
  cursor.rest.isEmpty

def skipComment (cursor : Cursor) : Cursor :=
  if cursor.head? = some '#' then cursor.skipWhile fun char => !isBreak char else cursor

end Cursor

end Stencil.Host.Yaml
