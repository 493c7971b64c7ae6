import RecordFilter.Text.Width

/-!
# Tables of text

A table is drawn with lines around every cell. A column is as wide as its widest line, and a row is
as high as its highest cell.
-/

namespace RecordFilter
namespace Table

/-- The lines of a cell. -/
def lines (cell : Text) : List Text :=
  Text.split '\n' cell

/-- The columns that the widest line of a cell takes. -/
def cellWidth (cell : Text) : Nat :=
  ((lines cell).map Text.width).foldl max 0

/-- The widths of the columns of a table whose rows have `count` cells. -/
def columnWidths (count : Nat) (rows : List (List Text)) : List Nat :=
  (List.range count).map fun i => (rows.map fun row => cellWidth (row.getD i [])).foldl max 0

/-- A line between rows, with its marks at the beginning, between columns and at the end. -/
def rule (left middle right : Char) (widths : List Nat) : Text :=
  left :: Text.join [middle] (widths.map fun width => List.replicate (width + 2) '─') ++ [right]

/-- One line of a row. -/
def rowLine (widths : List Nat) (cells : List Text) : Text :=
  '│' :: Text.join ['│'] ((widths.zip cells).map fun (width, cell) =>
    ' ' :: Text.padEnd width cell ++ [' ']) ++ ['│']

/-- The lines of a row. -/
def rowLines (widths : List Nat) (row : List Text) : List Text :=
  let cells := row.map lines
  let height := (cells.map List.length).foldl max 0
  (List.range height).map fun i => rowLine widths (cells.map fun cell => cell.getD i [])

/-- The lines of a table with rows of `count` cells. -/
def drawn (count : Nat) (rows : List (List Text)) : List Text :=
  let widths := columnWidths count rows
  let between := rule '├' '┼' '┤' widths
  let body := (rows.map (rowLines widths)).intersperse [between]
  rule '┌' '┬' '┐' widths :: body.flatten ++ [rule '└' '┴' '┘' widths]

/-- The text of a table with a row of column names. A table without columns has no text. -/
def render (columns : List Text) (rows : List (List Text)) : Text :=
  if columns.isEmpty then [] else Text.join ['\n'] (drawn columns.length (columns :: rows))

end Table
end RecordFilter
