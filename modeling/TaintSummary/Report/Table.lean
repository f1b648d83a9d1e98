import TaintSummary.Report
import TaintSummary.Unicode.WhiteSpace
import TaintSummary.Unicode.Width

/-!
# Reports as tables

Columns without borders, as wide as their widest line and three spaces apart. A cell with several lines goes on below itself.
White space at the end of a line and lines without anything else are left out.
-/

namespace TaintSummary.Table

/-- The number of spaces between columns. -/
def gap : Nat := 3

/-- The lines of a cell. -/
def cellLines (cell : Text) : List Text := Text.pieces '\n' cell

/-- The rows that are shown, the column names first unless they are left out. -/
def shownRows (headers : Bool) (r : Report) : List (List Text) :=
  if headers then r.columns :: r.rows else r.rows

/-- The number of lines of a row: as many as its tallest cell has. -/
def height (row : List Text) : Nat := (row.map fun cell => (cellLines cell).length).foldr max 0

/-- The `k`-th lines of the cells of a row, one for each of `columns` columns; what is missing is blank. -/
def lineCells (columns : Nat) (row : List Text) (k : Nat) : List Text :=
  (List.range columns).map fun i => ((cellLines (row.getD i []))[k]?).getD []

/-- The lines of a row, each as its cells. -/
def logicalLines (columns : Nat) (row : List Text) : List (List Text) :=
  (List.range (height row)).map (lineCells columns row)

/-- The number of columns of the rows. -/
def columnCount (rows : List (List Text)) : Nat := (rows.map List.length).foldr max 0

/-- The width of the widest line in column `i`, at least one. -/
def columnWidth (rows : List (List Text)) (i : Nat) : Nat :=
  (rows.flatMap fun row => (cellLines (row.getD i [])).map Text.width).foldr max 1

/-- A cell line filled up to the width of its column, and the gap after it. -/
def padded (width : Nat) (line : Text) : Text := line ++ Text.spaces (width - Text.width line) ++ Text.spaces gap

/-- A line of the table. -/
def line (widths : List Nat) (cells : List Text) : Text :=
  Text.trimEnd ((widths.zip cells).flatMap fun (width, cell) => padded width cell)

/-- The lines of the table. -/
def lines (headers : Bool) (r : Report) : List Text :=
  let rows := shownRows headers r
  let columns := columnCount rows
  let widths := (List.range columns).map (columnWidth rows)
  ((rows.flatMap (logicalLines columns)).map (line widths)).filter fun l => !l.isEmpty

/-- The table of a report. -/
def render (headers : Bool) (r : Report) : Text := Text.join ['\n'] (lines headers r)

end TaintSummary.Table
