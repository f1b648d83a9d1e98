import TaintSummary.Json.Printer
import TaintSummary.Report.Csv
import TaintSummary.Report.Table
import TaintSummary.Report.Yaml

/-!
# The formats of a report

A report is shown as a table, as comma-separated values, as JSON or as YAML. The last two show its records, and only the first
two can show or leave out the column names.
-/

namespace TaintSummary

/-- A way of showing a report. -/
inductive Format
  | table
  | json
  | csv
  | yaml
  deriving DecidableEq

namespace Format

/-- Every format. -/
def all : List Format := [.table, .json, .csv, .yaml]

/-- The name of the format. -/
def name : Format → Text
  | .table => "table".toList
  | .json => "json".toList
  | .csv => "csv".toList
  | .yaml => "yaml".toList

/-- The format with the name. -/
def ofName? (text : Text) : Option Format := all.find? fun f => f.name = text

end Format

namespace Report

/-- The records of the report as a JSON array of objects. -/
def toJson (r : Report) : Json :=
  .array (r.records.map fun record => .object (record.entries.map fun e => (e.1, .string e.2)))

/-- The report as text. -/
def render (format : Format) (headers : Bool) (r : Report) : Text :=
  match format with
  | .table => Table.render headers r
  | .json => Json.pretty r.toJson
  | .csv => Csv.render headers r
  | .yaml => Yaml.render r.records

end Report

end TaintSummary
