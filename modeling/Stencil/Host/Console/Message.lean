import Stencil.Host.Console.Markup
import Stencil.Host.Console.Width

/-!
# Messages on a console

What of a message arrives on a console: tags are left out, tabs are written as
blanks, and characters that would move the cursor are not written.
-/

namespace Stencil.Host.Console

/-- The columns from one tab stop to the next. -/
def tabWidth : Nat := 8

/-- A text with blanks up to the next stop in place of every tab, where the
text begins some columns after a stop. -/
def withoutTabs (column : Nat) : Text → Text
  | [] => []
  | '\n' :: text => '\n' :: withoutTabs 0 text
  | '\t' :: text =>
      List.replicate (tabWidth - column % tabWidth) ' ' ++ withoutTabs 0 text
  | char :: text => char :: withoutTabs (column + charWidth char) text

/-- The characters of a message that are written. -/
def plain (message : Text) : Except Fault Text := do
  return withoutTabs 0 (← (← Marked.ofMessage message).shown)

/-- What a message looks like in a cell of a table. -/
def cell (message : Text) : Except Fault Text :=
  (plain message).map Text.trim

def line (message : Text) : Except Fault Text :=
  (plain message).map (· ++ ['\n'])

/-- The text without the sequences that set colours. -/
def withoutColours : Nat → Text → Text
  | 0, _ => []
  | _ + 1, [] => []
  | fuel + 1, '\x1b' :: '[' :: text =>
      let isParameter (char : Char) : Bool :=
        Text.isDigit char || char = ';' || char = '?'
      match text.dropWhile isParameter with
      | letter :: rest =>
          if letter.isAlpha then withoutColours fuel rest
          else '\x1b' :: '[' :: withoutColours fuel text
      | [] => '\x1b' :: '[' :: withoutColours fuel text
  | fuel + 1, char :: text => char :: withoutColours fuel text

end Stencil.Host.Console
