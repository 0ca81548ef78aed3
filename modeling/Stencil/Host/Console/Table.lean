import Stencil.Command.Library
import Stencil.Host.Console.Width

/-!
# Tables

Cells in ruled columns below a title.  Every column is as wide as its widest
cell, so that the cells of a column begin at one place on all lines.
-/

namespace Stencil.Host.Console.Table

/-- The four characters that a line is drawn with: at its left end, between
two columns, at its right end, and for what a cell does not fill. -/
structure Stroke where
  left : Char
  middle : Char
  right : Char
  fill : Char

def top : Stroke := ⟨'┏', '┳', '┓', '━'⟩

def heading : Stroke := ⟨'┃', '┃', '┃', ' '⟩

def divider : Stroke := ⟨'┡', '╇', '┩', '━'⟩

def body : Stroke := ⟨'│', '│', '│', ' '⟩

def bottom : Stroke := ⟨'└', '┴', '┘', '─'⟩

def widths (table : Command.Table) : List Nat :=
  table.rows.foldl (fun widths row => List.zipWith max widths (row.map Console.width))
    (table.headings.map Console.width)

/-- A cell that fills its column, with room on both sides. -/
def cell (stroke : Stroke) (columns : Nat) (content : Text) : Text :=
  stroke.fill :: content ++ List.replicate (columns + 1 - width content) stroke.fill

def line (stroke : Stroke) (widths : List Nat) (cells : List Text) : Text :=
  stroke.left :: Text.join [stroke.middle] (List.zipWith (cell stroke) widths cells)
    ++ [stroke.right, '\n']

/-- A title in the middle of a number of columns. -/
def titleLine (columns : Nat) (title : Text) : Text :=
  let room := columns - width title
  List.replicate (room / 2) ' ' ++ title ++ List.replicate (room - room / 2) ' ' ++ ['\n']

def text (table : Command.Table) : Text :=
  let widths := widths table
  let empty := widths.map fun _ => []
  let first := line top widths empty
  titleLine (first.length - 1) table.title ++ first ++ line heading widths table.headings
    ++ line divider widths empty ++ (table.rows.map (line body widths)).flatten
    ++ line bottom widths empty

end Stencil.Host.Console.Table
