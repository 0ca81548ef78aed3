import Stencil.Command.Arguments
import Stencil.File.Tree
import Stencil.Settings.Library

/-!
# What commands are run with

Taking a command line apart, checking the paths in it and writing messages are not part
of this library: they are parameters of every command.
-/

namespace Stencil.Command

structure Library where
  settings : Settings.Library
  /-- The arguments taken apart; none if they are misused. -/
  arguments : OptionNames → List Text → Option Given
  /-- Whether the values of all options are what they have to be. -/
  areAccepted : FileTree → Location → OptionNames → Given → Except Fault Bool
  /-- The line that is written for a message with markup. -/
  line : Text → Except Fault Text
  /-- What is written in a cell of a table for a text with markup. -/
  cell : Text → Except Fault Text
  /-- What is written for a text that has no markup. -/
  echo : Text → Text

/-- A table to be written: a title, the headings of the columns, and rows with
one cell for each. -/
structure Table where
  title : Text
  headings : List Text
  rows : List (List Text)
  deriving DecidableEq, Repr

end Stencil.Command
