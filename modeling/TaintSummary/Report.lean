import TaintSummary.Inventory
import TaintSummary.Sorting
import TaintSummary.Unicode.Lowercase

/-!
# Reports

A report has named columns and rows of cells. The report of an inventory has one row for each resource, sorted by what it shows
of the resource. The records of a report map the lower-case column names to the cells; a name that occurs twice keeps the
last cell.
-/

namespace TaintSummary

/-- Rows to be shown. A cell may have several lines, and a row fewer or more cells than there are columns. -/
structure Report where
  columns : List Text
  rows : List (List Text)

/-- A row as a map from column names. -/
abbrev Record := SortedMap Text Text

namespace Report

/-- The columns and cells of a row, in pairs; what has no partner is left out. -/
def recordOf (columns row : List Text) : Record :=
  SortedMap.ofList ((columns.zip row).map fun (column, cell) => (Text.lowercase column, cell))

/-- One record for each row. -/
def records (r : Report) : List Record := r.rows.map (recordOf r.columns)

/-- The row of a resource. -/
def rowOf {α : Type} [Listed α] (entry : Resource × List α) : List Text :=
  Listed.labels α entry.1 ++ [Listed.printList entry.2]

/-- The report of an inventory, its resources being visited in their own order. Resources that show the same stay as they are
visited, so that another order of visiting may give another report. -/
def ofInventory {α : Type} [Listed α] (inv : Inventory α) : Report where
  columns := Listed.columns α
  rows := (sortBy (fun entry => Listed.labels α entry.1) inv.entries).map rowOf

end Report

end TaintSummary
