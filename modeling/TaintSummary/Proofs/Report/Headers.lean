import TaintSummary.Proofs.Report.ResourceLines

/-!
# Reports without column names

Leaving out the column names takes their lines away and nothing else (`headers_add_lines`). In a table the names have a part in the
number of columns and in their widths, so that the other lines need not stay the same. But which of them are shown depends on their
cells alone (`shownLines_eq`), and each is made of its cells and of spaces after them, whatever the layout (`line_eq_spaced`).
-/

namespace TaintSummary.Table

/-- The `k`-th line of a text that is cut at its line breaks; nothing where it has no such line. -/
def piece (k : Nat) (cell : Text) : Text := ((Text.pieces '\n' cell)[k]?).getD []

/-- The lines of a row that are not blank, each by its cells: a row has as many lines as the cell with the most line breaks, and its
`k`-th line is made of the `k`-th lines of its cells. -/
def nonblankLines (row : List Text) : List (Nat → Text) :=
  ((List.range ((row.map fun cell => (Text.pieces '\n' cell).length).foldr max 0)).filter fun k =>
    row.any fun cell => !Text.isBlank (piece k cell)).map fun k i => ((row[i]?).map (piece k)).getD []

/-- The cells up to the last one, with so many spaces after each of them but the last. -/
def spaced (cell : Nat → Text) (spaces : Nat → Nat) (last : Nat) : Text :=
  ((List.range last).flatMap fun i => cell i ++ Text.spaces (spaces i)) ++ Text.trimEnd (cell last)

/-- The two lines have the same cells, up to the last one that is not blank, and differ at most in the numbers of spaces after them. -/
def DifferInSpaces (cell : Nat → Text) (line line' : Text) : Prop :=
  ∃ last, Text.isBlank (cell last) = false ∧ (∀ i, last < i → Text.isBlank (cell i) = true) ∧
    ∃ spaces spaces', line = spaced cell spaces last ∧ line' = spaced cell spaces' last

/-- The table with column names has the lines of these first, and then those of the table without column names. -/
structure AddsLines (r : Report) : Prop where
  count : (shownLines (r.render .table true)).length =
    (nonblankLines r.columns).length + (shownLines (r.render .table false)).length
  lines : ∃ header pairs,
    shownLines (r.render .table true) = header ++ pairs.map Prod.fst ∧
      shownLines (r.render .table false) = pairs.map Prod.snd ∧
      List.Forall₂ (layout true r).Shows (nonblankLines r.columns) header ∧
      List.Forall₂ (fun cell pair => DifferInSpaces cell pair.1 pair.2) (r.rows.flatMap nonblankLines) pairs

section Layout

variable {rows : List (List Text)} (layout : Layout rows)

/-- The table has these lines: as many as the row is high, less those whose cells are all blank. -/
theorem nonblankLines_eq (row : List Text) :
    nonblankLines row = ((List.range (height row)).filter fun k => !(row.map (cellLine k)).all Text.isBlank).map (lineAt row) := by
  have hline : (fun k i => ((row[i]?).map (piece k)).getD []) = lineAt row := by
    funext k i
    rw [lineAt]
    cases row[i]? <;> rfl
  have hblank : ∀ k, (row.any fun cell => !Text.isBlank (piece k cell)) = !(row.map (cellLine k)).all Text.isBlank := by
    intro k
    rw [List.all_map, List.not_all_eq_any_not]
    rfl
  rw [nonblankLines, hline]
  simp only [hblank]
  rfl

/-- The lines of a row that are shown do not depend on the layout. -/
theorem inkedLines_eq {row : List Text} (h : row ∈ rows) : inkedLines layout row = nonblankLines row := by
  have hheight : layout.height row = height row :=
    eq_of_forall_ge_iff fun n => (layout.height_le row n).trans ((layoutOf rows).height_le row n).symm
  have hink : ∀ k, layout.hasInk (lineAt row k) = !(row.map (cellLine k)).all Text.isBlank := by
    intro k
    rw [lineAt_eq_cellOf]
    exact hasInk_cellOf layout (by simpa using layout.length_le h)
  rw [inkedLines, nonblankLines_eq, hheight, List.filter_map]
  exact congrArg _ (List.filter_congr fun k _ => hink k)

/-- From one column on there is nothing but white space, and so nothing to be shown. -/
theorem trimEnd_upTo {cell : Nat → Text} {i j : Nat} (hij : i ≤ j) (h : ∀ n, i ≤ n → Text.isBlank (cell n) = true) :
    Text.trimEnd (layout.upTo cell j) = Text.trimEnd (layout.upTo cell i) := by
  induction j, hij using Nat.le_induction with
  | base => rfl
  | succ j hj ih =>
    have hblank : Text.isBlank (padded (layout.width j) (cell j)) = true := by
      rw [← Text.ink_eq_nil_iff, Layout.ink_padded, Text.ink_eq_nil_iff]
      exact h j hj
    rw [Layout.upTo_succ, Text.trimEnd_append_of_isBlank _ hblank, ih]

/-- A line is its cells up to the last one that is not blank, and spaces between them. -/
theorem line_eq_spaced {cell : Nat → Text} {last : Nat} (hlast : last < layout.columns)
    (hcell : Text.isBlank (cell last) = false) (hlater : ∀ i, last < i → Text.isBlank (cell i) = true) :
    layout.line cell = spaced cell (fun i => layout.width i - Text.width (cell i) + gap) last := by
  have hpadded : ∀ w t, padded w t = t ++ Text.spaces (w - Text.width t + gap) := by
    intro w t
    rw [padded, List.append_assoc, Text.spaces, Text.spaces, List.replicate_append_replicate, Text.spaces]
  have hspaces : ∀ n, Text.isBlank (Text.spaces n) = true :=
    fun n => List.all_eq_true.mpr fun c hc => by rw [List.eq_of_mem_replicate hc]; decide
  rw [Layout.line, trimEnd_upTo layout hlast hlater, Layout.upTo_succ, hpadded, ← List.append_assoc,
    Text.trimEnd_append_of_isBlank _ (hspaces _), Text.trimEnd_append_of_not_isBlank _ hcell, spaced, Layout.upTo]
  simp only [hpadded]

end Layout

/-- Of cells that are not all blank one is the last that is not. -/
theorem exists_last {cells : List Text} (h : cells.all Text.isBlank = false) :
    ∃ last < cells.length, Text.isBlank (cellOf cells last) = false ∧ ∀ i, last < i → Text.isBlank (cellOf cells i) = true := by
  induction cells with
  | nil => cases h
  | cons cell cells ih =>
    cases hcells : cells.all Text.isBlank with
    | false =>
      obtain ⟨last, hlast, hcell, hlater⟩ := ih hcells
      refine ⟨last + 1, Nat.succ_lt_succ hlast, hcell, fun i hi => ?_⟩
      obtain ⟨j, rfl⟩ : ∃ j, i = j + 1 := ⟨i - 1, by omega⟩
      exact hlater j (Nat.lt_of_succ_lt_succ hi)
    | true =>
      rw [List.all_cons, hcells, Bool.and_true] at h
      refine ⟨0, Nat.succ_pos _, h, fun i hi => ?_⟩
      obtain ⟨j, rfl⟩ : ∃ j, i = j + 1 := ⟨i - 1, by omega⟩
      have hrest : cellOf (cell :: cells) (j + 1) = cellOf cells j := rfl
      rw [hrest, cellOf]
      cases hj : cells[j]? with
      | none => rfl
      | some later => exact List.all_eq_true.mp hcells later (List.mem_of_getElem? hj)

/-- In two layouts with room for its cells a line is the same but for the spaces after them. -/
theorem differInSpaces_line {rows rows' : List (List Text)} (layout : Layout rows) (layout' : Layout rows') {row : List Text}
    (h : row ∈ rows) (h' : row ∈ rows') {cell : Nat → Text} (hcell : cell ∈ nonblankLines row) :
    DifferInSpaces cell (layout.line cell) (layout'.line cell) := by
  rw [nonblankLines_eq] at hcell
  obtain ⟨k, hk, rfl⟩ := List.mem_map.mp hcell
  have hcells : (row.map (cellLine k)).all Text.isBlank = false := by simpa using (List.mem_filter.mp hk).2
  obtain ⟨last, hlast, hblank, hlater⟩ := exists_last hcells
  rw [← lineAt_eq_cellOf] at hblank hlater
  rw [List.length_map] at hlast
  exact ⟨last, hblank, hlater, _, _, line_eq_spaced layout (hlast.trans_le (layout.length_le h)) hblank hlater,
    line_eq_spaced layout' (hlast.trans_le (layout'.length_le h')) hblank hlater⟩

/-- A table shows the lines of its rows that are not blank. -/
theorem shownLines_eq (headers : Bool) (r : Report) :
    shownLines (r.render .table headers) =
      ((shownRows headers r).flatMap nonblankLines).map (layout headers r).line := by
  have hlines : (layout headers r).lines.filter (layout headers r).hasInk =
      (shownRows headers r).flatMap (inkedLines (layout headers r)) := List.filter_flatMap
  rw [shownLines_render, hlines, List.flatMap_congr fun row hrow => inkedLines_eq (layout headers r) hrow]

/-- The lines of the column names are the only ones that a table has more with them. -/
theorem addsLines (r : Report) : AddsLines r := by
  have hrows : (shownRows true r).flatMap nonblankLines = nonblankLines r.columns ++ r.rows.flatMap nonblankLines :=
    List.flatMap_cons
  have hwith := shownLines_eq true r
  have hwithout : shownLines (r.render .table false) = (r.rows.flatMap nonblankLines).map (layout false r).line :=
    shownLines_eq false r
  rw [hrows, List.map_append] at hwith
  constructor
  case count => rw [hwith, hwithout, List.length_append, List.length_map, List.length_map, List.length_map]
  case lines =>
    refine ⟨(nonblankLines r.columns).map (layout true r).line,
      (r.rows.flatMap nonblankLines).map fun cell => ((layout true r).line cell, (layout false r).line cell), ?_, ?_, ?_, ?_⟩
    · rw [hwith, List.map_map]
      rfl
    · rw [hwithout, List.map_map]
      rfl
    · rw [List.forall₂_map_right_iff, List.forall₂_same]
      intro cell hcell
      rw [nonblankLines_eq] at hcell
      obtain ⟨k, -, rfl⟩ := List.mem_map.mp hcell
      exact Layout.shows_line _ (Layout.fits_lineAt _ List.mem_cons_self k)
    · rw [List.forall₂_map_right_iff, List.forall₂_same]
      intro cell hcell
      obtain ⟨row, hrow, hcell⟩ := List.mem_flatMap.mp hcell
      exact differInSpaces_line _ _ (List.mem_cons_of_mem _ hrow) hrow hcell

end TaintSummary.Table

namespace TaintSummary

/-- Without column names the records are shown as they are with them, comma-separated values lack one line, and a table lacks the
lines of the column names. -/
theorem headers_add_lines (r : Report) :
    r.render .json true = r.render .json false ∧
      r.render .yaml true = r.render .yaml false ∧
      r.render .csv true =
        Text.join [','] r.columns ++ (if r.rows = [] then [] else '\n' :: r.render .csv false) ∧
      Table.AddsLines r := by
  refine ⟨rfl, rfl, ?_, Table.addsLines r⟩
  cases hrows : r.rows with
  | nil => simp [Report.render, Csv.render, hrows, Text.join]
  | cons row rows => simp [Report.render, Csv.render, hrows, Text.join]

/-- The column of the names is narrower without its own name. -/
example :
    let r : Report := ⟨["NAME".toList, "TAINTS".toList], [["a".toList, "none".toList]]⟩
    Table.shownLines (r.render .table true) = ["NAME   TAINTS".toList, "a      none".toList] ∧
      Table.shownLines (r.render .table false) = ["a   none".toList] := by
  decide +kernel

end TaintSummary
