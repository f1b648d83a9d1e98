import Mathlib.Algebra.BigOperators.Group.Finset.Basic
import Mathlib.Algebra.Order.BigOperators.Group.Finset
import Mathlib.Data.List.Forall2
import Mathlib.Data.Multiset.Bind
import TaintSummary.Proofs.Text.Pieces
import TaintSummary.Proofs.Text.Trim
import TaintSummary.Proofs.Unicode.Width
import TaintSummary.Report.Format

/-!
# The layout of a table

The layout of a table is the least one that holds its cells (`Layout`). Each line of a row is shown as its cell lines side by side
(`Layout.Shows`), each column at the same place in all lines; lines that would be blank are not shown, and everything else is
(`shows_render`).
-/

namespace TaintSummary.Table

/-- The `k`-th line of cell `i` of a row; what is missing is blank. -/
def lineAt (row : List Text) (k i : Nat) : Text := ((row[i]?).bind fun cell => (cellLines cell)[k]?).getD []

/-- The lines of a text; a text without characters has none. -/
def shownLines (text : Text) : List Text := if text = [] then [] else Text.pieces '\n' text

/-- How much room rows take: the least number of columns, width of each column and height of each row that hold their cells. -/
structure Layout (rows : List (List Text)) where
  columns : Nat
  width : Nat → Nat
  height : List Text → Nat
  columns_le (n : Nat) : columns ≤ n ↔ ∀ row ∈ rows, row.length ≤ n
  width_le (i n : Nat) : width i ≤ n ↔ 1 ≤ n ∧ ∀ row ∈ rows, ∀ k, Text.width (lineAt row k i) ≤ n
  height_le (row : List Text) (n : Nat) : height row ≤ n ↔ ∀ cell ∈ row, (cellLines cell).length ≤ n

namespace Layout

variable {rows : List (List Text)}

/-- The lines of the rows, each by its cells. -/
def lines (layout : Layout rows) : List (Nat → Text) :=
  rows.flatMap fun row => (List.range (layout.height row)).map (lineAt row)

/-- A line has a character that is not white space. -/
def hasInk (layout : Layout rows) (cell : Nat → Text) : Bool :=
  (List.range layout.columns).any fun i => !Text.isBlank (cell i)

/-- The first `j` cells of a line, each filled up to the width of its column and followed by a gap. -/
def upTo (layout : Layout rows) (cell : Nat → Text) (j : Nat) : Text :=
  (List.range j).flatMap fun i => padded (layout.width i) (cell i)

/-- Where column `j` starts. -/
def offset (layout : Layout rows) (j : Nat) : Nat := ∑ i ∈ Finset.range j, (layout.width i + gap)

/-- The cells are shown side by side, each column at its place. -/
structure Shows (layout : Layout rows) (cell : Nat → Text) (line : Text) : Prop where
  /-- But for white space at its end the line is made of the padded cells. -/
  whole : ∃ blank, Text.isBlank blank = true ∧ line ++ blank = layout.upTo cell layout.columns
  trimmed : ∀ c, line.getLast? = some c → Unicode.isBlank c = false
  /-- A cell that is not blank comes after the padded cells before it. -/
  starts : ∀ j < layout.columns, Text.isBlank (cell j) = false → layout.upTo cell j ++ Text.trimEnd (cell j) <+: line
  /-- They take as much room as their columns do, in all lines. -/
  width_upTo : ∀ j, Text.width (layout.upTo cell j) = layout.offset j
  /-- A cell ends before the next column starts. -/
  apart : ∀ i j, i < j → layout.offset i + Text.width (cell i) + gap ≤ layout.offset j
  ink : Text.ink line = (List.range layout.columns).flatMap fun i => Text.ink (cell i)

theorem upTo_succ (layout : Layout rows) (cell : Nat → Text) (j : Nat) :
    layout.upTo cell (j + 1) = layout.upTo cell j ++ padded (layout.width j) (cell j) := by
  rw [upTo, List.range_succ, List.flatMap_append, List.flatMap_singleton, ← upTo]

/-- A column starts where the one before it ends. -/
theorem offset_succ (layout : Layout rows) (j : Nat) :
    layout.offset (j + 1) = layout.offset j + (layout.width j + gap) := Finset.sum_range_succ _ _

theorem upTo_prefix (layout : Layout rows) (cell : Nat → Text) {i j : Nat} (h : i ≤ j) :
    layout.upTo cell i <+: layout.upTo cell j := by
  induction j, h using Nat.le_induction with
  | base => exact List.prefix_rfl
  | succ j _ ih =>
    rw [upTo_succ]
    exact ih.trans (List.prefix_append _ _)

/-- Columns start in their order. -/
theorem offset_le (layout : Layout rows) {i j : Nat} (h : i ≤ j) : layout.offset i ≤ layout.offset j := by
  induction j, h using Nat.le_induction with
  | base => exact Nat.le_refl _
  | succ j _ ih =>
    rw [offset_succ]
    exact ih.trans (Nat.le_add_right _ _)

/-- What comes after the first columns starts where they end, whatever it is. -/
theorem width_upTo_append (layout : Layout rows) {cell : Nat → Text} (h : ∀ i, Text.width (cell i) ≤ layout.width i) (j : Nat)
    (t : Text) : Text.width (layout.upTo cell j ++ t) = layout.offset j + Text.width t := by
  induction j generalizing t with
  | zero => simp [upTo, offset]
  | succ j ih =>
    have hpadded : padded (layout.width j) (cell j) ++ t =
        cell j ++ Text.spaces (layout.width j - Text.width (cell j) + gap) ++ t := by
      rw [padded, List.append_assoc (cell j), Text.spaces, Text.spaces, List.replicate_append_replicate, ← Text.spaces]
    have hgap : 0 < layout.width j - Text.width (cell j) + gap := Nat.add_pos_right _ (by decide)
    have hfits := h j
    rw [upTo_succ, List.append_assoc, ih, hpadded, Text.width_append_spaces hgap, offset_succ]
    omega

/-- Padding adds white space only. -/
theorem ink_padded (n : Nat) (t : Text) : Text.ink (padded n t) = Text.ink t := by
  have hspaces : ∀ m, Text.ink (Text.spaces m) = [] := fun m =>
    Text.ink_eq_nil_iff.mpr (List.all_eq_true.mpr fun c hc => by rw [List.eq_of_mem_replicate hc]; decide)
  rw [padded, Text.ink_append, Text.ink_append, hspaces, hspaces, List.append_nil, List.append_nil]

/-- What is not white space in the cells of the first columns stands there in the order of the columns. -/
theorem ink_upTo (layout : Layout rows) (cell : Nat → Text) (j : Nat) :
    Text.ink (layout.upTo cell j) = (List.range j).flatMap fun i => Text.ink (cell i) := by
  rw [upTo, List.flatMap_def, Text.ink_flatten, List.flatMap_map]
  exact List.flatMap_congr fun i _ => ink_padded _ _

/-- The line of some cells. -/
def line (layout : Layout rows) (cell : Nat → Text) : Text := Text.trimEnd (layout.upTo cell layout.columns)

/-- Cells that fit their columns are shown by their line. -/
theorem shows_line (layout : Layout rows) {cell : Nat → Text} (h : ∀ i, Text.width (cell i) ≤ layout.width i) :
    layout.Shows cell (layout.line cell) where
  whole := Text.exists_trimEnd_append _
  trimmed := fun c => Text.not_isBlank_of_getLast?_trimEnd
  starts := by
    intro j hj hcell
    have hnext : layout.upTo cell j ++ cell j <+: layout.upTo cell (j + 1) := by
      rw [upTo_succ, padded, List.append_assoc]
      exact (List.prefix_append_right_inj _).mpr (List.prefix_append _ _)
    rw [← Text.trimEnd_append_of_not_isBlank _ hcell]
    exact Text.trimEnd_prefix (hnext.trans (layout.upTo_prefix cell hj))
  width_upTo := by
    intro j
    have hwidth := layout.width_upTo_append h j []
    rwa [List.append_nil] at hwidth
  apart := by
    intro i j hij
    have hnext := layout.offset_le hij
    rw [Nat.succ_eq_add_one, offset_succ] at hnext
    have hfits := h i
    omega
  ink := by rw [line, Text.ink_trimEnd, ink_upTo]

/-- A line is left out when all its cells are white space. -/
theorem isEmpty_line (layout : Layout rows) (cell : Nat → Text) : (layout.line cell).isEmpty = !layout.hasInk cell := by
  have hblank : (layout.line cell).isEmpty = true ↔ ∀ i < layout.columns, Text.isBlank (cell i) = true := by
    rw [List.isEmpty_iff, line, Text.trimEnd_eq_nil_iff, ← Text.ink_eq_nil_iff, ink_upTo, List.flatMap_eq_nil_iff]
    simp [Text.ink_eq_nil_iff]
  rw [Bool.eq_iff_iff, hblank]
  simp [hasInk]

end Layout

/-- A maximum is bounded by what bounds its parts. -/
theorem foldr_max_le_iff (l : List Nat) (least n : Nat) : l.foldr max least ≤ n ↔ least ≤ n ∧ ∀ x ∈ l, x ≤ n := by
  induction l with
  | nil => simp
  | cons x l ih => simp only [List.foldr_cons, Nat.max_le, ih, List.forall_mem_cons, and_left_comm]

/-- A missing cell is like an empty one: its lines are blank. -/
theorem lineAt_eq (row : List Text) (k i : Nat) : lineAt row k i = ((cellLines (row.getD i []))[k]?).getD [] := by
  rw [lineAt, List.getD_eq_getElem?_getD]
  cases row[i]? with
  | none => cases k <;> rfl
  | some cell => rfl

/-- The width of a column is the least one, from one on, that holds all cell lines of the column. -/
theorem columnWidth_le_iff (rows : List (List Text)) (i n : Nat) :
    columnWidth rows i ≤ n ↔ 1 ≤ n ∧ ∀ row ∈ rows, ∀ k, Text.width (lineAt row k i) ≤ n := by
  have hline : ∀ row : List Text, (∀ k, Text.width (lineAt row k i) ≤ n) ↔
      ∀ line ∈ cellLines (row.getD i []), Text.width line ≤ n := by
    intro row
    constructor
    · intro h line hline
      obtain ⟨k, hk⟩ := List.mem_iff_getElem?.mp hline
      have hwidth := h k
      rwa [lineAt_eq, hk] at hwidth
    · intro h k
      rw [lineAt_eq]
      cases hk : (cellLines (row.getD i []))[k]? with
      | none => exact Nat.zero_le n
      | some line => exact h line (List.mem_of_getElem? hk)
  rw [columnWidth, foldr_max_le_iff]
  simp only [List.forall_mem_flatMap, List.forall_mem_map, hline]

/-- The layout of a table. -/
def layoutOf (rows : List (List Text)) : Layout rows where
  columns := columnCount rows
  width := columnWidth rows
  height := height
  columns_le := fun n => by simp [columnCount, foldr_max_le_iff]
  width_le := columnWidth_le_iff rows
  height_le := fun row n => by simp [height, foldr_max_le_iff]

/-- The layout of the table of a report. -/
def layout (headers : Bool) (r : Report) : Layout (shownRows headers r) := layoutOf (shownRows headers r)

/-- The cells of a line are those of the row at its number. -/
theorem lineCells_eq (columns : Nat) (row : List Text) (k : Nat) :
    lineCells columns row k = (List.range columns).map (lineAt row k) := by
  rw [lineCells]
  exact List.map_congr_left fun i _ => (lineAt_eq row k i).symm

theorem line_eq {rows : List (List Text)} (cell : Nat → Text) :
    line ((List.range (columnCount rows)).map (columnWidth rows)) ((List.range (columnCount rows)).map cell) =
      (layoutOf rows).line cell := by
  rw [line, List.zip_map', List.flatMap_map]
  rfl

/-- The lines of the table are those that are not blank. -/
theorem lines_eq (headers : Bool) (r : Report) :
    lines headers r = ((layout headers r).lines.filter (layout headers r).hasInk).map (layout headers r).line := by
  have hall : ((shownRows headers r).flatMap (logicalLines (columnCount (shownRows headers r)))).map
      (line ((List.range (columnCount (shownRows headers r))).map (columnWidth (shownRows headers r)))) =
      (layout headers r).lines.map (layout headers r).line := by
    rw [Layout.lines, List.map_flatMap, List.map_flatMap]
    refine List.flatMap_congr fun row _ => ?_
    rw [logicalLines, List.map_map, List.map_map]
    refine List.map_congr_left fun k _ => ?_
    rw [Function.comp_apply, Function.comp_apply, lineCells_eq, line_eq, layout]
  rw [lines, hall, List.filter_map]
  congr 1
  refine List.filter_congr fun cell _ => ?_
  rw [Function.comp_apply, Layout.isEmpty_line, Bool.not_not]

namespace Layout

variable {rows : List (List Text)}

/-- A line of the layout is a line of one of the rows. -/
theorem mem_lines {layout : Layout rows} {cell : Nat → Text} (h : cell ∈ layout.lines) :
    ∃ row ∈ rows, ∃ k, cell = lineAt row k := by
  obtain ⟨row, hrow, hcell⟩ := List.mem_flatMap.mp h
  obtain ⟨k, -, rfl⟩ := List.mem_map.mp hcell
  exact ⟨row, hrow, k, rfl⟩

/-- There is a column for every cell. -/
theorem length_le (layout : Layout rows) {row : List Text} (h : row ∈ rows) : row.length ≤ layout.columns :=
  (layout.columns_le _).mp (Nat.le_refl _) row h

/-- The lines of the cells fit their columns. -/
theorem fits_lineAt (layout : Layout rows) {row : List Text} (h : row ∈ rows) (k i : Nat) :
    Text.width (lineAt row k i) ≤ layout.width i := ((layout.width_le i _).mp (Nat.le_refl _)).2 row h k

end Layout

/-- The line of a cell holds no line feed. -/
theorem not_mem_lineAt (row : List Text) (k i : Nat) : '\n' ∉ lineAt row k i := by
  rw [lineAt_eq]
  cases hk : (cellLines (row.getD i []))[k]? with
  | none => simp
  | some line => exact Text.mem_pieces (List.mem_of_getElem? hk)

/-- No line of a table goes on after a line feed. -/
theorem not_mem_line {rows : List (List Text)} (layout : Layout rows) {cell : Nat → Text} (h : ∀ i, '\n' ∉ cell i) :
    '\n' ∉ layout.line cell := by
  intro hline
  have hwhole := (Text.trimEnd_prefix_self _).subset hline
  obtain ⟨i, -, hpadded⟩ := List.mem_flatMap.mp hwhole
  have hspaces : ∀ n, '\n' ∉ Text.spaces n := fun n hmem => by cases List.eq_of_mem_replicate hmem
  rcases List.mem_append.mp hpadded with hpadded | hgap
  · rcases List.mem_append.mp hpadded with hcell | hfill
    · exact h i hcell
    · exact hspaces _ hfill
  · exact hspaces _ hgap

/-- Lines that are joined are shown again, as long as none of them is empty. -/
theorem shownLines_join {ls : List Text} (hne : ∀ l ∈ ls, l ≠ []) (h : ∀ l ∈ ls, '\n' ∉ l) :
    shownLines (Text.join ['\n'] ls) = ls := by
  cases ls with
  | nil => rfl
  | cons l more =>
    have hpieces := Text.pieces_join (List.cons_ne_nil l more) h
    have hjoin : Text.join ['\n'] (l :: more) ≠ [] := by
      intro hempty
      rw [hempty] at hpieces
      cases hpieces
      exact hne [] (List.mem_cons_self) rfl
    rw [shownLines, if_neg hjoin, hpieces]

/-- The lines that are shown of a table are those of its layout that are not blank. -/
theorem shownLines_render (headers : Bool) (r : Report) :
    shownLines (r.render .table headers) =
      ((layout headers r).lines.filter (layout headers r).hasInk).map (layout headers r).line := by
  have hrender : r.render .table headers = Text.join ['\n'] (lines headers r) := rfl
  rw [hrender, ← lines_eq, shownLines_join]
  · intro l hl hempty
    rw [lines, List.mem_filter, hempty] at hl
    exact Bool.false_ne_true hl.2
  · intro l hl
    rw [lines_eq] at hl
    obtain ⟨cell, hcell, rfl⟩ := List.mem_map.mp hl
    obtain ⟨row, -, k, rfl⟩ := Layout.mem_lines (List.mem_of_mem_filter hcell)
    exact not_mem_line _ (not_mem_lineAt row k)

/-- Reading a list by its indices finds each element once. -/
theorem flatMap_range_getD {α β : Type} (l : List α) {n : Nat} (hn : l.length ≤ n) {d : α} {f : α → List β} (hd : f d = []) :
    ((List.range n).flatMap fun i => f (l[i]?.getD d)) = l.flatMap f := by
  induction l generalizing n with
  | nil => simp [hd]
  | cons x l ih =>
    obtain ⟨m, rfl⟩ : ∃ m, n = m + 1 := ⟨n - 1, by simp only [List.length_cons] at hn; omega⟩
    have hm : l.length ≤ m := Nat.le_of_succ_le_succ hn
    rw [List.range_succ_eq_map, List.flatMap_cons, List.flatMap_map, List.flatMap_cons, ← ih hm]
    rfl

/-- A grid may be read line by line or column by column. -/
theorem flatMap_flatMap_perm {α β γ : Type} (l : List α) (m : List β) (f : α → β → List γ) :
    (l.flatMap fun a => m.flatMap fun b => f a b).Perm (m.flatMap fun b => l.flatMap fun a => f a b) := by
  have hbind := Multiset.bind_bind (l : Multiset α) (m : Multiset β) (f := fun a b => (f a b : Multiset γ))
  simp only [Multiset.coe_bind] at hbind
  exact Multiset.coe_eq_coe.mp hbind

/-- The lines of a cell hold its characters. -/
theorem flatMap_ink_cellLines (cell : Text) : (cellLines cell).flatMap Text.ink = Text.ink cell := by
  have hblank : Text.isBlank ['\n'] = true := by decide
  rw [cellLines, ← Text.ink_join hblank, Text.join_pieces]

/-- The lines of a row hold the characters of its cells. -/
theorem ink_lines_perm {rows : List (List Text)} (layout : Layout rows) {row : List Text} (hrow : row ∈ rows) :
    ((List.range (layout.height row)).flatMap fun k =>
      (List.range layout.columns).flatMap fun i => Text.ink (lineAt row k i)).Perm (row.flatMap Text.ink) := by
  have hcell : ∀ i, ((List.range (layout.height row)).flatMap fun k => Text.ink (lineAt row k i)) =
      Text.ink (row[i]?.getD []) := by
    intro i
    cases hi : row[i]? with
    | none => simp [lineAt, hi, Text.ink]
    | some cell =>
      have hheight : (cellLines cell).length ≤ layout.height row :=
        (layout.height_le row _).mp (Nat.le_refl _) cell (List.mem_of_getElem? hi)
      simp only [lineAt, hi, Option.bind_some, Option.getD_some]
      rw [flatMap_range_getD _ hheight rfl, flatMap_ink_cellLines]
  refine (flatMap_flatMap_perm _ _ _).trans (List.Perm.of_eq ?_)
  simp only [hcell]
  exact flatMap_range_getD row (layout.length_le hrow) rfl

/-- What adds nothing may be left out. -/
theorem flatMap_filter {α β : Type} {p : α → Bool} {f : α → List β} (h : ∀ a, p a = false → f a = []) (l : List α) :
    (l.filter p).flatMap f = l.flatMap f := by
  induction l with
  | nil => rfl
  | cons a l ih =>
    cases ha : p a with
    | true => rw [List.filter_cons_of_pos ha, List.flatMap_cons, List.flatMap_cons, ih]
    | false =>
      rw [List.filter_cons_of_neg (Bool.eq_false_iff.mp ha), List.flatMap_cons, h a ha, List.nil_append, ih]

/-- Every character that is not white space is shown once for each time it stands in a cell. -/
theorem ink_render_perm (headers : Bool) (r : Report) :
    (Text.ink (r.render .table headers)).Perm (Text.ink (shownRows headers r).flatten.flatten) := by
  have hrender : r.render .table headers = Text.join ['\n'] (lines headers r) := rfl
  have hblank : Text.isBlank ['\n'] = true := by decide
  generalize hlayout : layout headers r = layout
  have hink : ∀ cell : Nat → Text, Text.ink (layout.line cell) =
      (List.range layout.columns).flatMap fun i => Text.ink (cell i) := by
    intro cell
    rw [Layout.line, Text.ink_trimEnd, Layout.ink_upTo]
  have hnone : ∀ cell, layout.hasInk cell = false → Text.ink (layout.line cell) = [] := by
    intro cell hcell
    have hempty := layout.isEmpty_line cell
    rw [hcell, Bool.not_false, List.isEmpty_iff] at hempty
    rw [hempty]
    rfl
  have hcells : Text.ink (shownRows headers r).flatten.flatten =
      (shownRows headers r).flatMap fun row => row.flatMap Text.ink := by
    rw [Text.ink_flatten, List.flatten_eq_flatMap, List.flatMap_assoc]
    rfl
  rw [hrender, Text.ink_join hblank, lines_eq, hlayout, List.flatMap_map, flatMap_filter hnone, Layout.lines,
    List.flatMap_assoc, hcells]
  refine List.Perm.flatMap_left _ fun row hrow => ?_
  rw [List.flatMap_map]
  simp only [hink]
  exact ink_lines_perm layout hrow

/-- The table shows every line that is not blank, in order and with each column at its place, and nothing else. No character that is
not white space is lost. -/
theorem shows_render (headers : Bool) (r : Report) :
    List.Forall₂ (layout headers r).Shows ((layout headers r).lines.filter (layout headers r).hasInk)
        (shownLines (r.render .table headers)) ∧
      (Text.ink (r.render .table headers)).Perm (Text.ink (shownRows headers r).flatten.flatten) := by
  refine ⟨?_, ink_render_perm headers r⟩
  rw [shownLines_render, List.forall₂_map_right_iff, List.forall₂_same]
  intro cell hcell
  obtain ⟨row, hrow, k, rfl⟩ := Layout.mem_lines (List.mem_of_mem_filter hcell)
  exact Layout.shows_line _ (Layout.fits_lineAt _ hrow k)

/-- A cell of two lines stays in its column. -/
example :
    shownLines (Report.render .table false ⟨[], [["node-a".toList, "key,\nkey2".toList], ["b".toList, "none".toList]]⟩) =
      ["node-a   key,".toList, "         key2".toList, "b        none".toList] := by
  decide +kernel

end TaintSummary.Table
