import TaintSummary.Report

/-!
# Reports as comma-separated values

Writing a report, and reading records back. A cell with a comma, a quote or a line feed stands between quotes, its quotes
doubled. The reader ends a record at a line feed and a field at a comma outside quotes.
-/

namespace TaintSummary.Csv

/-- A cell has to be quoted. -/
def needsQuotes (cell : Text) : Bool := cell.any fun c => c = ',' || c = '"' || c = '\n'

/-- The text with every quote doubled. -/
def doubleQuotes (cell : Text) : Text := cell.flatMap fun c => if c = '"' then ['"', '"'] else [c]

/-- A cell as it is written. -/
def cell (c : Text) : Text := if needsQuotes c then '"' :: doubleQuotes c ++ ['"'] else c

/-- A row as it is written. -/
def row (cells : List Text) : Text := Text.join [','] (cells.map cell)

/-- The column names, unless they are left out, and the rows, each on lines of its own. -/
def render (headers : Bool) (r : Report) : Text :=
  Text.join ['\n'] ((if headers then [Text.join [','] r.columns] else []) ++ r.rows.map row)

/-- Where in a record the reader stands. -/
inductive Place
  /-- Before the first character of a field. -/
  | start
  /-- In a field, outside quotes. -/
  | bare
  /-- Inside quotes. -/
  | quoted

/-- Puts a character in front of the first field. -/
def push (c : Char) : List (List Text) → List (List Text)
  | (field :: fields) :: records => ((c :: field) :: fields) :: records
  | records => records

/-- Puts an empty field in front of the first record. -/
def pushField : List (List Text) → List (List Text)
  | fields :: records => ([] :: fields) :: records
  | [] => []

/-- The records of a text, the first field of the first one from the reader's place on. -/
def readFrom : Place → Text → List (List Text)
  | _, [] => [[[]]]
  | .quoted, '"' :: '"' :: rest => push '"' (readFrom .quoted rest)
  | .quoted, '"' :: rest => readFrom .bare rest
  | .quoted, c :: rest => push c (readFrom .quoted rest)
  | .start, '"' :: rest => readFrom .quoted rest
  | .start, ',' :: rest => pushField (readFrom .start rest)
  | .bare, ',' :: rest => pushField (readFrom .start rest)
  | .start, '\n' :: rest => [[]] :: readFrom .start rest
  | .bare, '\n' :: rest => [[]] :: readFrom .start rest
  | .start, c :: rest => push c (readFrom .bare rest)
  | .bare, c :: rest => push c (readFrom .bare rest)

/-- The records of a text. -/
def read (t : Text) : List (List Text) := readFrom .start t

end TaintSummary.Csv
