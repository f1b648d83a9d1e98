import Mathlib.Data.List.Forall2
import Mathlib.Order.Bounds.Basic
import TaintSummary.Proofs.Json.RoundTrip
import TaintSummary.Proofs.Order
import TaintSummary.Report.Format

/-!
# Reading the JSON of a report

The JSON of a report is an array with one object for each row. An object has the names of the columns that have a cell in the row,
each once and in lower case, and for a name the last cell below it (`IsRecord`), so that no cell is lost when the names differ and
every cell has a column. Whatever the cells are, these objects are what a reader of JSON makes of the text (`parse_render_json`).
-/

namespace TaintSummary.Report

/-- The places of a row that have the name: there is a cell and a column, and the column's name is this one in lower case. -/
def places (columns row : List Text) (name : Text) : Set Nat :=
  {j | j < min columns.length row.length ∧ ∃ column, columns[j]? = some column ∧ Text.lowercase column = name}

/-- The members are those of the object that stands for a row. -/
structure IsRecord (columns row : List Text) (members : List (Text × Json)) : Prop where
  /-- No name stands there twice: the names are in order. -/
  increasing : members.Pairwise fun m m' => compare m.1 m'.1 = .lt
  names : ∀ name, name ∈ members.map Prod.fst ↔
    ∃ column ∈ columns.take (min columns.length row.length), Text.lowercase column = name
  values : ∀ name value, (name, value) ∈ members ↔
    ∃ j cell, IsGreatest (places columns row name) j ∧ row[j]? = some cell ∧ value = .string cell
  /-- Every cell is there when no two names are the same in lower case and no cell is without a column. -/
  complete : (columns.map Text.lowercase).Nodup → row.length ≤ columns.length →
    ∀ (j : Nat) (cell : Text), row[j]? = some cell →
      ∃ column, columns[j]? = some column ∧ (Text.lowercase column, .string cell) ∈ members

/-- The members of the object that stands for a record. -/
def members (record : Record) : List (Text × Json) := record.entries.map fun e => (e.1, .string e.2)

/-- A report is the array of the objects that stand for the records of its rows. -/
theorem toJson_eq (r : Report) : r.toJson = .array ((r.rows.map fun row => members (recordOf r.columns row)).map .object) := by
  rw [toJson, records, List.map_map, List.map_map]
  rfl

/-- The names and the cells of a row, in pairs. -/
def pairs (columns row : List Text) : List (Text × Text) :=
  (columns.zip row).map fun (column, cell) => (Text.lowercase column, cell)

/-- A pair has the name of the column at its place, in lower case, and the cell at its place. -/
theorem getElem?_pairs_iff {columns row : List Text} {j : Nat} {name cell : Text} :
    (pairs columns row)[j]? = some (name, cell) ↔
      (∃ column, columns[j]? = some column ∧ Text.lowercase column = name) ∧ row[j]? = some cell := by
  simp only [pairs, List.getElem?_map, Option.map_eq_some_iff, Prod.exists, List.getElem?_zip_eq_some, Prod.mk.injEq]
  constructor
  · rintro ⟨column, x, ⟨hcolumn, hcell⟩, hname, rfl⟩
    exact ⟨⟨column, hcolumn, hname⟩, hcell⟩
  · rintro ⟨⟨column, hcolumn, hname⟩, hcell⟩
    exact ⟨column, cell, ⟨hcolumn, hcell⟩, hname, rfl⟩

/-- The places with a name are those of its pairs. -/
theorem mem_places_iff {columns row : List Text} {j : Nat} {name : Text} :
    j ∈ places columns row name ↔ ∃ cell, (pairs columns row)[j]? = some (name, cell) := by
  simp only [getElem?_pairs_iff, exists_and_left]
  constructor
  · rintro ⟨hlt, hcolumn⟩
    have hrow : j < row.length := by omega
    exact ⟨hcolumn, row[j], List.getElem?_eq_getElem hrow⟩
  · rintro ⟨⟨column, hcolumn, hname⟩, cell, hcell⟩
    have hcolumns := (List.getElem?_eq_some_iff.mp hcolumn).1
    have hrow := (List.getElem?_eq_some_iff.mp hcell).1
    exact ⟨by omega, column, hcolumn, hname⟩

/-- An entry of a record is the last cell below a column of its name. -/
theorem mem_recordOf_iff {columns row : List Text} {name cell : Text} :
    (name, cell) ∈ (recordOf columns row).entries ↔
      ∃ j, IsGreatest (places columns row name) j ∧ row[j]? = some cell := by
  have hof : recordOf columns row = SortedMap.ofList (pairs columns row) := rfl
  rw [hof, SortedMap.mem_ofList_iff]
  constructor
  · rintro ⟨j, hj, hlast⟩
    refine ⟨j, ⟨mem_places_iff.mpr ⟨cell, hj⟩, fun i hi => ?_⟩, (getElem?_pairs_iff.mp hj).2⟩
    obtain ⟨x, hx⟩ := mem_places_iff.mp hi
    exact Nat.not_lt.mp fun hlt => hlast i (name, x) hlt hx rfl
  · rintro ⟨j, ⟨hj, hgreatest⟩, hcell⟩
    refine ⟨j, getElem?_pairs_iff.mpr ⟨hj.2, hcell⟩, ?_⟩
    rintro i ⟨name', x⟩ hlt hi rfl
    exact absurd (hgreatest (mem_places_iff.mpr ⟨x, hi⟩)) (Nat.not_le.mpr hlt)

/-- The names of a record are those of the columns that have a cell. -/
theorem mem_keys_recordOf_iff {columns row : List Text} {name : Text} :
    name ∈ (recordOf columns row).keys ↔
      ∃ column ∈ columns.take (min columns.length row.length), Text.lowercase column = name := by
  have hof : recordOf columns row = SortedMap.ofList (pairs columns row) := rfl
  have hnames : (pairs columns row).map Prod.fst =
      (columns.take (min columns.length row.length)).map Text.lowercase := by
    have hzip : (columns.zip row).map Prod.fst = columns.take (min columns.length row.length) := by
      rw [List.zip_eq_zip_take_min, List.map_fst_zip (by simp)]
    rw [← hzip, pairs, List.map_map, List.map_map]
    rfl
  rw [hof, SortedMap.mem_keys_ofList_iff, hnames, List.mem_map]

theorem map_fst_members (record : Record) : (members record).map Prod.fst = record.keys := by
  rw [members, List.map_map]
  rfl

/-- The members are the entries of the record, each cell as a string. -/
theorem mem_members_iff {record : Record} {name : Text} {value : Json} :
    (name, value) ∈ members record ↔ ∃ cell, (name, cell) ∈ record.entries ∧ value = .string cell := by
  simp only [members, List.mem_map, Prod.exists, Prod.mk.injEq]
  constructor
  · rintro ⟨name, cell, hentry, rfl, rfl⟩
    exact ⟨cell, hentry, rfl⟩
  · rintro ⟨cell, hentry, rfl⟩
    exact ⟨name, cell, hentry, rfl, rfl⟩

/-- When no two names are the same every place is the last one of its name. -/
theorem isGreatest_places {columns row : List Text} (hdistinct : (columns.map Text.lowercase).Nodup) {j : Nat} {column : Text}
    (hcolumn : columns[j]? = some column) (hlt : j < row.length) : IsGreatest (places columns row (Text.lowercase column)) j := by
  have hj := (List.getElem?_eq_some_iff.mp hcolumn).1
  refine ⟨⟨by omega, column, hcolumn, rfl⟩, ?_⟩
  rintro i ⟨hi, other, hother, hname⟩
  -- equal names stand at equal places
  have hsame : (columns.map Text.lowercase)[i]? = (columns.map Text.lowercase)[j]? := by
    rw [List.getElem?_map, List.getElem?_map, hother, hcolumn, Option.map_some, Option.map_some, hname]
  have hlength : i < (columns.map Text.lowercase).length := by
    rw [List.length_map]
    omega
  exact Nat.le_of_eq ((List.getElem?_inj hlength hdistinct).mp hsame)

/-- The object of a row has the last cell under each name, in the order of the names. -/
theorem isRecord_members (columns row : List Text) : IsRecord columns row (members (recordOf columns row)) where
  increasing := List.pairwise_map.mpr (recordOf columns row).increasing
  names name := by rw [map_fst_members, mem_keys_recordOf_iff]
  values name value := by
    simp only [mem_members_iff, mem_recordOf_iff]
    constructor
    · rintro ⟨cell, ⟨j, hj, hcell⟩, hvalue⟩
      exact ⟨j, cell, hj, hcell, hvalue⟩
    · rintro ⟨j, cell, hj, hcell, hvalue⟩
      exact ⟨cell, ⟨j, hj, hcell⟩, hvalue⟩
  complete hdistinct hlength j cell hcell := by
    have hlt : j < row.length := (List.getElem?_eq_some_iff.mp hcell).1
    have hcolumns : j < columns.length := by omega
    have hcolumn : columns[j]? = some columns[j] := List.getElem?_eq_getElem hcolumns
    have hentry := mem_recordOf_iff.mpr ⟨j, isGreatest_places hdistinct hcolumn hlt, hcell⟩
    exact ⟨_, hcolumn, mem_members_iff.mpr ⟨cell, hentry, rfl⟩⟩

/-- An object of strings has no numbers and nothing nested, so that reading it gives it back. -/
theorem membersPlain_members (record : Record) (depth : Nat) : Json.membersPlain depth (members record) = true := by
  unfold members
  induction record.entries with
  | nil => rfl
  | cons e rest ih =>
    have hstring : Json.isPlain depth (.string e.2) = true := by cases depth <;> rfl
    rw [List.map_cons, Json.membersPlain, hstring, ih]
    rfl

/-- There is nothing but texts in the objects of a report. -/
theorem isPlain_toJson (r : Report) : Json.isPlain Json.depthLimit r.toJson = true := by
  rw [toJson_eq, List.map_map]
  have hitems (depth : Nat) (rows : List (List Text)) :
      Json.itemsPlain (depth + 1) (rows.map (Json.object ∘ fun row => members (recordOf r.columns row))) = true := by
    induction rows with
    | nil => rfl
    | cons row rest ih =>
      rw [List.map_cons, Json.itemsPlain, ih, Bool.and_true]
      exact membersPlain_members (recordOf r.columns row) depth
  exact hitems (Json.depthLimit - 2) r.rows

/-- The JSON of a report is read as an array with one object for each row, in the order of the rows, and the object has the
cells of the row. -/
theorem parse_render_json (headers : Bool) (r : Report) :
    ∃ objects : List (List (Text × Json)), Json.parse (r.render .json headers) = some (.array (objects.map .object)) ∧
      List.Forall₂ (IsRecord r.columns) r.rows objects := by
  refine ⟨r.rows.map fun row => members (recordOf r.columns row), ?_, ?_⟩
  · rw [← toJson_eq]
    exact Json.parse_pretty (isPlain_toJson r)
  · rw [List.forall₂_map_right_iff, List.forall₂_same]
    exact fun row _ => isRecord_members r.columns row

end TaintSummary.Report
