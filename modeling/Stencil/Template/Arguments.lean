import Stencil.Text.Blank

/-!
# Argument lists

Splitting a text at a delimiter outside quoted spans.  A span opens at a quote
and closes at the next quote of the same kind; one that is not closed runs to
the end.
-/

namespace Stencil.Arguments

/-- The characters that open a quoted span. -/
def isQuote (char : Char) : Bool :=
  char = '"' || char = '\''

/-- A character in front of the first of some stretches. -/
def push (char : Char) (stretches : Text × List Text) : Text × List Text :=
  (char :: stretches.1, stretches.2)

/-- The stretches between the delimiters outside quoted spans, the first one
and the others; `quote` is the quote of the span that is open, if any. -/
def stretches (delimiter : Text) (quote : Option Char) : Text → Text × List Text
  | [] => ([], [])
  | char :: text =>
      match quote with
      | none =>
          if isQuote char then push char (stretches delimiter (some char) text)
          else if [char] = delimiter then
            let (first, later) := stretches delimiter none text
            ([], first :: later)
          else push char (stretches delimiter none text)
      | some mark =>
          push char (stretches delimiter (if char = mark then none else some mark) text)

/-- The stretches without blank characters around them; a blank last one is
left out. -/
def parts (first : Text) : List Text → List Text
  | [] => if Text.trim first = [] then [] else [Text.trim first]
  | next :: later => Text.trim first :: parts next later

/-- The parts of a text between the delimiters outside quoted spans. -/
def split (delimiter : Text) (raw : Text) : List Text :=
  let (first, later) := stretches delimiter none raw
  parts first later

/-- Whether a part begins and ends with the same quote. -/
def isQuoted (part : Text) : Bool :=
  match part with
  | quote :: rest => isQuote quote && rest.getLast? = some quote
  | [] => false

/-- What stands between the quotes of a quoted part; any other part as it is. -/
def unquote (part : Text) : Text :=
  if isQuoted part then part.tail.dropLast else part

/-- The arguments of a filter: parts between commas, without their quotes. -/
def parse (raw : Text) : List Text :=
  (split [','] raw).map unquote

end Stencil.Arguments
