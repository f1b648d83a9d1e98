import Mathlib.Algebra.GroupWithZero.Nat
import TaintSummary.Proofs.Report.Table
import TaintSummary.Proofs.Specifier

/-!
# The lines of a resource

In the table of an inventory every resource has a line for each of its items, and one that says so if it has none, as long as no
name or item holds a line feed. A line goes missing only when nothing but white space would be on it: that is so for the last item
alone, which no comma follows, when it shows as white space and nothing else is on its line (`losesLine`). No toleration does
(`shows_inventory`).
-/

namespace TaintSummary.Table

variable {α : Type} [Listed α]

/-- What the `k`-th line of a list shows: the item, and a comma unless it is the last one. -/
def itemLine (items : List α) (k : Nat) : Text :=
  match items[k]? with
  | some item => Listed.print item ++ (if k + 1 < items.length then [','] else [])
  | none => if k = 0 then Listed.none else []

/-- The cells on the `k`-th line of a resource; its labels are on the first one. -/
def entryCells (entry : Resource × List α) (k : Nat) : List Text :=
  ((Listed.labels α entry.1).map fun label => if k = 0 then label else []) ++ [itemLine entry.2 k]

/-- The number of lines for a resource: one for each of its items, and one if it has none. -/
def lineCount (entry : Resource × List α) : Nat := max 1 entry.2.length

/-- The cells by their numbers; what is missing is blank. -/
def cellOf (cells : List Text) (i : Nat) : Text := (cells[i]?).getD []

/-- The lines show the items of a resource in their order; if it loses a line, it is the last one. -/
structure ShowsEntry {rows : List (List Text)} (layout : Layout rows) (loses : Bool) (entry : Resource × List α)
    (lines : List Text) : Prop where
  length_add : lines.length + loses.toNat = lineCount entry
  shows : ∀ k line, lines[k]? = some line → layout.Shows (cellOf (entryCells entry k)) line

/-- The table of an inventory shows its resources one after the other, and only those for which `loses` holds lose a line. -/
structure ShowsInventory (headers : Bool) (inv : Inventory α) (loses : Resource × List α → Bool) : Prop where
  blocks : ∃ header blocks,
    shownLines ((Report.ofInventory inv).render .table headers) = header ++ blocks.flatten ∧
      List.Forall₂ ((layout headers (Report.ofInventory inv)).Shows) (if headers then [cellOf (Listed.columns α)] else [])
        header ∧
      List.Forall₂ (fun entry lines => ShowsEntry (layout headers (Report.ofInventory inv)) (loses entry) entry lines)
        (sortBy (fun entry => Listed.labels α entry.1) inv.entries) blocks
  count : (shownLines ((Report.ofInventory inv).render .table headers)).length + inv.entries.countP loses =
    headers.toNat + (inv.entries.map lineCount).sum

/-- The last line is lost: the last item shows as white space, and so do the labels if they are on the same line. -/
def losesLine (entry : Resource × List α) : Bool :=
  entry.2.getLast?.any fun item =>
    Text.isBlank (Listed.print item) && (decide (2 ≤ entry.2.length) || (Listed.labels α entry.1).all Text.isBlank)

/-- The labels and items of a resource hold no line feed. -/
def OnLines (entry : Resource × List α) : Prop :=
  (∀ label ∈ Listed.labels α entry.1, '\n' ∉ label) ∧ ∀ item ∈ entry.2, '\n' ∉ Listed.print item

/-- The lines behind that of the first item are those of the other items. -/
theorem itemLine_cons_succ (item next : α) (items : List α) (k : Nat) :
    itemLine (item :: next :: items) (k + 1) = itemLine (next :: items) k := by
  cases k <;> simp [itemLine]

/-- The lines of a list that is shown are those of its items. -/
theorem cellLines_printList {items : List α} (h : ∀ item ∈ items, '\n' ∉ Listed.print item) :
    cellLines (Listed.printList items) = (List.range (max 1 items.length)).map (itemLine items) := by
  induction items with
  | nil => rfl
  | cons item items ih =>
    obtain ⟨hitem, hitems⟩ := List.forall_mem_cons.mp h
    cases items with
    | nil =>
      have hsingle : Listed.printList [item] = Listed.print item := rfl
      rw [cellLines, hsingle, Text.pieces_of_not_mem hitem]
      simp [itemLine]
    | cons next items =>
      have hcomma : '\n' ∉ Listed.print item ++ [','] := by simpa using hitem
      have hjoin : Listed.printList (item :: next :: items) =
          (Listed.print item ++ [',']) ++ '\n' :: Listed.printList (next :: items) := by
        simp [Listed.printList, Text.join]
      have hmax : max 1 (item :: next :: items).length = max 1 (next :: items).length + 1 := by
        simp only [List.length_cons]
        omega
      have hfirst : itemLine (item :: next :: items) 0 = Listed.print item ++ [','] := by simp [itemLine]
      rw [cellLines, hjoin, Text.pieces_append_cons hcomma, ← cellLines, ih hitems, hmax, List.range_succ_eq_map,
        List.map_cons, List.map_map, hfirst]
      exact congrArg _ (List.map_congr_left fun k _ => (itemLine_cons_succ item next items k).symm)

/-- The `k`-th line of a cell. -/
def cellLine (k : Nat) (cell : Text) : Text := ((cellLines cell)[k]?).getD []

/-- A line of a row is made of the lines of its cells. -/
theorem lineAt_eq_cellOf (row : List Text) (k : Nat) : lineAt row k = cellOf (row.map (cellLine k)) := by
  funext i
  rw [lineAt, cellOf, List.getElem?_map]
  cases row[i]? <;> rfl

/-- A cell without line feeds is on the first line alone. -/
theorem cellLine_of_not_mem {cell : Text} (h : '\n' ∉ cell) (k : Nat) : cellLine k cell = if k = 0 then cell else [] := by
  rw [cellLine, cellLines, Text.pieces_of_not_mem h]
  cases k <;> rfl

/-- The lines of the cell of a list are those of its items. -/
theorem cellLine_printList {items : List α} (h : ∀ item ∈ items, '\n' ∉ Listed.print item) (k : Nat) :
    cellLine k (Listed.printList items) = itemLine items k := by
  rw [cellLine, cellLines_printList h, List.getElem?_map]
  rcases Nat.lt_or_ge k (max 1 items.length) with hk | hk
  · rw [List.getElem?_range hk]
    rfl
  · have hitems : items.length ≤ k := by omega
    have hzero : k ≠ 0 := by omega
    rw [List.getElem?_eq_none (by simpa using hk), itemLine, List.getElem?_eq_none hitems]
    exact (if_neg hzero).symm

/-- The lines of the row of a resource. -/
theorem lineAt_rowOf {entry : Resource × List α} (h : OnLines entry) (k : Nat) :
    lineAt (Report.rowOf entry) k = cellOf (entryCells entry k) := by
  rw [lineAt_eq_cellOf, Report.rowOf, List.map_append, List.map_singleton, cellLine_printList h.2, entryCells,
    List.map_congr_left fun label hlabel => cellLine_of_not_mem (h.1 label hlabel) k]

/-- A row of cells without line feeds is one line. -/
theorem lineAt_zero {row : List Text} (h : ∀ cell ∈ row, '\n' ∉ cell) : lineAt row 0 = cellOf row := by
  rw [lineAt_eq_cellOf, List.map_congr_left fun cell hcell => cellLine_of_not_mem (h cell hcell) 0]
  simp

section Layout

variable {rows : List (List Text)} (layout : Layout rows)

theorem length_cellLines_of_not_mem {cell : Text} (h : '\n' ∉ cell) : (cellLines cell).length = 1 := by
  rw [cellLines, Text.pieces_of_not_mem h]
  rfl

/-- A row of such cells is one line high. -/
theorem height_of_not_mem {row : List Text} (hne : row ≠ []) (h : ∀ cell ∈ row, '\n' ∉ cell) : layout.height row = 1 := by
  refine eq_of_forall_ge_iff fun n => ?_
  obtain ⟨cell, hcell⟩ := List.exists_mem_of_ne_nil row hne
  rw [layout.height_le]
  constructor
  · intro hn
    rw [← length_cellLines_of_not_mem (h cell hcell)]
    exact hn cell hcell
  · intro hn cell hcell
    rwa [length_cellLines_of_not_mem (h cell hcell)]

/-- The row of a resource is as high as its list is long, and never less than one line. -/
theorem height_rowOf {entry : Resource × List α} (h : OnLines entry) : layout.height (Report.rowOf entry) = lineCount entry := by
  have hlist : (cellLines (Listed.printList entry.2)).length = lineCount entry := by
    rw [cellLines_printList h.2, List.length_map, List.length_range, lineCount]
  refine eq_of_forall_ge_iff fun n => ?_
  rw [layout.height_le, Report.rowOf]
  constructor
  · intro hn
    rw [← hlist]
    exact hn _ (by simp)
  · intro hn cell hcell
    rcases List.mem_append.mp hcell with hlabel | hitems
    · rw [length_cellLines_of_not_mem (h.1 cell hlabel)]
      exact (Nat.le_max_left 1 _).trans hn
    · rw [List.mem_singleton.mp hitems, hlist]
      exact hn

/-- Whether a line has ink can be told from its cells. -/
theorem hasInk_cellOf {cells : List Text} (h : cells.length ≤ layout.columns) :
    layout.hasInk (cellOf cells) = !cells.all Text.isBlank := by
  have hblank : (∀ i < layout.columns, Text.isBlank (cellOf cells i) = true) ↔ ∀ cell ∈ cells, Text.isBlank cell = true := by
    constructor
    · intro hall cell hcell
      obtain ⟨i, hi⟩ := List.mem_iff_getElem?.mp hcell
      have hlt := (List.getElem?_eq_some_iff.mp hi).1
      have hcellOf := hall i (hlt.trans_le h)
      rwa [cellOf, hi] at hcellOf
    · intro hall i _
      rw [cellOf]
      cases hi : cells[i]? with
      | none => rfl
      | some cell => exact hall cell (List.mem_of_getElem? hi)
  rw [← Bool.not_inj_iff, Bool.not_not, Bool.eq_iff_iff, List.all_eq_true, ← hblank]
  simp [Layout.hasInk]

/-- A line that ends with a comma is not blank. -/
theorem all_isBlank_entryCells_of_lt {entry : Resource × List α} {k : Nat} (h : k + 1 < lineCount entry) :
    (entryCells entry k).all Text.isBlank = false := by
  have hk : k + 1 < entry.2.length := by
    unfold lineCount at h
    omega
  have hcomma : Unicode.isBlank ',' = false := by decide
  rw [entryCells, List.all_append, itemLine, List.getElem?_eq_getElem (Nat.lt_of_succ_lt hk)]
  simp [hk, Text.isBlank, hcomma]

/-- The last line is blank when it is lost. -/
theorem all_isBlank_entryCells_last (entry : Resource × List α) {k : Nat} (h : k + 1 = lineCount entry) :
    (entryCells entry k).all Text.isBlank = losesLine entry := by
  unfold lineCount at h
  obtain ⟨resource, items⟩ := entry
  rcases List.eq_nil_or_concat items with rfl | ⟨init, last, rfl⟩
  · have hnone : Text.isBlank Listed.none = false := by decide
    obtain rfl : k = 0 := by simpa using h
    simp [entryCells, itemLine, hnone, losesLine]
  · obtain rfl : k = init.length := by
      simp only [List.concat_eq_append, List.length_append, List.length_singleton] at h
      omega
    cases init with
    | nil => simp [entryCells, itemLine, losesLine, Bool.and_comm]
    | cons first more =>
      have hlast : (first :: (more ++ [last])).getLast? = some last := List.getLast?_concat (l := first :: more)
      simp [entryCells, itemLine, losesLine, hlast, Text.isBlank]

/-- The lines of a row that are shown. -/
def inkedLines (row : List Text) : List (Nat → Text) :=
  ((List.range (layout.height row)).map (lineAt row)).filter layout.hasInk

/-- Cells on one line are shown on it, unless they are all blank. -/
theorem inkedLines_of_not_mem {row : List Text} (hrow : row ∈ rows) (hplain : ∀ cell ∈ row, '\n' ∉ cell)
    (hink : row.all Text.isBlank = false) : inkedLines layout row = [cellOf row] := by
  have hne : row ≠ [] := by
    rintro rfl
    cases hink
  have hshown : layout.hasInk (cellOf row) = true := by
    rw [hasInk_cellOf layout (layout.length_le hrow), hink, Bool.not_false]
  rw [inkedLines, height_of_not_mem layout hne hplain, List.range_one, List.map_singleton, lineAt_zero hplain,
    List.filter_singleton, hshown, cond_true]

/-- The lines of a resource are shown, all but a last one that is lost. -/
theorem inkedLines_rowOf {entry : Resource × List α} (hrow : Report.rowOf entry ∈ rows) (h : OnLines entry) :
    inkedLines layout (Report.rowOf entry) =
      (List.range (lineCount entry - (losesLine entry).toNat)).map fun k => cellOf (entryCells entry k) := by
  have hwide : ∀ k, (entryCells entry k).length ≤ layout.columns := by
    intro k
    simpa [entryCells, Report.rowOf] using layout.length_le hrow
  have hink : ∀ k, layout.hasInk (cellOf (entryCells entry k)) = !(entryCells entry k).all Text.isBlank :=
    fun k => hasInk_cellOf layout (hwide k)
  obtain ⟨last, hlast⟩ : ∃ last, last + 1 = lineCount entry := ⟨lineCount entry - 1, by unfold lineCount; omega⟩
  have hbefore : (List.range last).filter (layout.hasInk ∘ fun k => cellOf (entryCells entry k)) = List.range last := by
    refine List.filter_eq_self.mpr fun k hk => ?_
    have hlt : k + 1 < lineCount entry := by
      have := List.mem_range.mp hk
      omega
    rw [Function.comp_apply, hink, all_isBlank_entryCells_of_lt hlt, Bool.not_false]
  rw [inkedLines, height_rowOf layout h, List.map_congr_left fun k _ => lineAt_rowOf h k, List.filter_map, ← hlast,
    List.range_succ, List.filter_append, hbefore, List.filter_singleton, Function.comp_apply, hink,
    all_isBlank_entryCells_last entry hlast]
  cases losesLine entry <;> simp [List.range_succ]

/-- The lines that a table has for a resource. -/
def entryLines (entry : Resource × List α) : List Text :=
  (List.range (lineCount entry - (losesLine entry).toNat)).map fun k => layout.line (cellOf (entryCells entry k))

/-- A table of resources has the lines of its resources after one for its header. -/
theorem inked_lines_eq {header : List (List Text)} {entries : List (Resource × List α)}
    (hrows : rows = header ++ entries.map Report.rowOf) (hplain : ∀ row ∈ header, ∀ cell ∈ row, '\n' ∉ cell)
    (hink : ∀ row ∈ header, row.all Text.isBlank = false) (h : ∀ entry ∈ entries, OnLines entry) :
    (layout.lines.filter layout.hasInk).map layout.line =
      header.map (fun row => layout.line (cellOf row)) ++ (entries.map (entryLines layout)).flatten := by
  have hheader : header.flatMap (inkedLines layout) = header.map cellOf := by
    rw [← List.flatMap_pure_eq_map]
    refine List.flatMap_congr fun row hrow => ?_
    have hmem : row ∈ rows := hrows ▸ List.mem_append_left _ hrow
    exact inkedLines_of_not_mem layout hmem (hplain row hrow) (hink row hrow)
  have hentries : (entries.map Report.rowOf).flatMap (inkedLines layout) = entries.flatMap fun entry =>
      (List.range (lineCount entry - (losesLine entry).toNat)).map fun k => cellOf (entryCells entry k) := by
    rw [List.flatMap_map]
    refine List.flatMap_congr fun entry hentry => ?_
    have hmem : Report.rowOf entry ∈ rows := hrows ▸ List.mem_append_right _ (List.mem_map_of_mem hentry)
    exact inkedLines_rowOf layout hmem (h entry hentry)
  have hlines : layout.lines.filter layout.hasInk = rows.flatMap (inkedLines layout) := List.filter_flatMap
  have happend : rows.flatMap (inkedLines layout) =
      header.flatMap (inkedLines layout) ++ (entries.map Report.rowOf).flatMap (inkedLines layout) :=
    (congrArg (List.flatMap (inkedLines layout)) hrows).trans List.flatMap_append
  rw [hlines, happend, hheader, hentries, List.map_append, List.map_map, List.map_flatMap, List.flatMap_def]
  simp only [List.map_map]
  rfl

/-- The lines of a resource show its items in their order. -/
theorem showsEntry_entryLines {entry : Resource × List α} (hrow : Report.rowOf entry ∈ rows) (h : OnLines entry) :
    ShowsEntry layout (losesLine entry) entry (entryLines layout entry) where
  length_add := by
    have hcount : 1 ≤ lineCount entry := Nat.le_max_left _ _
    have hlost := (losesLine entry).toNat_le
    rw [entryLines, List.length_map, List.length_range]
    omega
  shows := by
    intro k line hline
    obtain ⟨hk, rfl⟩ := List.getElem?_eq_some_iff.mp hline
    have hfits := Layout.fits_lineAt layout hrow k
    rw [lineAt_rowOf h] at hfits
    simp only [entryLines, List.getElem_map, List.getElem_range]
    exact layout.shows_line hfits

end Layout

/-- The lines of the resources are counted one resource after the other. -/
theorem length_flatten_add {rows : List (List Text)} {layout : Layout rows} {loses : Resource × List α → Bool}
    {entries : List (Resource × List α)} {blocks : List (List Text)}
    (h : List.Forall₂ (fun entry lines => ShowsEntry layout (loses entry) entry lines) entries blocks) :
    blocks.flatten.length + entries.countP loses = (entries.map lineCount).sum := by
  induction h with
  | nil => rfl
  | @cons entry lines entries blocks hentry _ ih =>
    have hlength := hentry.length_add
    rw [List.flatten_cons, List.length_append, List.countP_cons, List.map_cons, List.sum_cons, ← ih, ← hlength]
    cases loses entry <;> simp <;> omega

/-- A table shows every resource of an inventory, as long as their labels and items stand on lines of their own. -/
theorem showsInventory_of_onLines (headers : Bool) {inv : Inventory α} (hplain : ∀ name ∈ Listed.columns α, '\n' ∉ name)
    (hink : (Listed.columns α).all Text.isBlank = false) (h : ∀ entry ∈ inv.entries, OnLines entry) :
    ShowsInventory headers inv losesLine := by
  have hperm := sortBy_perm (fun entry => Listed.labels α entry.1) inv.entries
  have hrows : shownRows headers (Report.ofInventory inv) = (if headers then [Listed.columns α] else []) ++
      (sortBy (fun entry => Listed.labels α entry.1) inv.entries).map Report.rowOf := by
    cases headers <;> rfl
  generalize hentries : sortBy (fun entry => Listed.labels α entry.1) inv.entries = entries at hrows hperm
  have honLines : ∀ entry ∈ entries, OnLines entry := fun entry hentry => h entry (hperm.mem_iff.mp hentry)
  have hheader : ∀ row ∈ (if headers then [Listed.columns α] else []), row = Listed.columns α := by
    cases headers <;> simp
  have hlines := inked_lines_eq (layout headers (Report.ofInventory inv)) hrows
    (fun row hrow => hheader row hrow ▸ hplain) (fun row hrow => hheader row hrow ▸ hink) honLines
  rw [← shownLines_render] at hlines
  have hblocks : List.Forall₂ (fun entry lines =>
      ShowsEntry (layout headers (Report.ofInventory inv)) (losesLine entry) entry lines) entries
      (entries.map (entryLines (layout headers (Report.ofInventory inv)))) := by
    rw [List.forall₂_map_right_iff, List.forall₂_same]
    intro entry hentry
    have hrow : Report.rowOf entry ∈ shownRows headers (Report.ofInventory inv) :=
      hrows ▸ List.mem_append_right _ (List.mem_map_of_mem hentry)
    exact showsEntry_entryLines _ hrow (honLines entry hentry)
  have hcount := length_flatten_add hblocks
  constructor
  · refine ⟨_, _, hlines, ?_, hentries ▸ hblocks⟩
    cases headers with
    | false => exact .nil
    | true =>
      refine .cons (Layout.shows_line _ ?_) .nil
      rw [← lineAt_zero hplain]
      exact Layout.fits_lineAt _ (List.mem_cons_self) 0
  · rw [hlines, List.length_append, Nat.add_assoc, hperm.symm.countP_eq, hcount, (hperm.map lineCount).sum_eq]
    cases headers <;> rfl

/-- A toleration is never shown as white space. -/
theorem isBlank_print_toleration (t : Toleration) : Text.isBlank t.print = false := by
  have hopen : Unicode.isBlank '(' = false := by decide
  rw [Text.isBlank, Toleration.print]
  simp [hopen]

/-- A toleration always shows, so that no line of one is lost. -/
theorem losesLine_toleration (entry : Resource × List Toleration) : losesLine entry = false := by
  cases hlast : entry.2.getLast? <;> simp [losesLine, hlast, Listed.print, isBlank_print_toleration]

/-- A line is lost to a taint when the last taint shows as white space and no name that does not is on its line. -/
theorem losesLine_taint (entry : Resource × List Taint) :
    losesLine entry = entry.2.getLast?.any fun t =>
      Text.isBlank t.print && (decide (2 ≤ entry.2.length) || Text.isBlank entry.1.name) := by
  simp [losesLine, Listed.labels, Listed.print]

/-- Without line feeds in names, keys and values the table of tolerations has a line for each toleration and for each resource
without any. So has the table of taints, but for the line of a last taint that shows as white space, unless a name that does not is
on it. -/
theorem shows_inventory (headers : Bool) :
    (∀ inv : Inventory Toleration,
      (∀ entry ∈ inv.entries, '\n' ∉ entry.1.ns ∧ '\n' ∉ entry.1.name ∧ ∀ t ∈ entry.2, t.taint.Avoids ['\n']) →
      ShowsInventory headers inv fun _ => false) ∧
    ∀ inv : Inventory Taint,
      (∀ entry ∈ inv.entries, '\n' ∉ entry.1.ns ∧ '\n' ∉ entry.1.name ∧ ∀ t ∈ entry.2, t.Avoids ['\n']) →
      ShowsInventory headers inv fun entry => entry.2.getLast?.any fun t =>
        Text.isBlank t.print && (decide (2 ≤ entry.2.length) || Text.isBlank entry.1.name) := by
  constructor
  · intro inv h
    rw [← funext losesLine_toleration]
    refine showsInventory_of_onLines headers (by decide) (by decide) fun entry hentry => ?_
    obtain ⟨hns, hname, hitems⟩ := h entry hentry
    exact ⟨by simpa [Listed.labels] using ⟨hns, hname⟩, fun t ht => Toleration.not_mem_print (hitems t ht)⟩
  · intro inv h
    rw [← funext losesLine_taint]
    refine showsInventory_of_onLines headers (by decide) (by decide) fun entry hentry => ?_
    obtain ⟨-, hname, hitems⟩ := h entry hentry
    refine ⟨by simpa [Listed.labels] using hname, fun t ht => ?_⟩
    obtain ⟨hkey, hvalue⟩ := hitems t ht '\n' (by simp)
    exact Taint.not_mem_print (by simp) hkey hvalue

/-- A node loses the line of a second taint whose key is a blank, a workload keeps that of such a toleration. -/
theorem shows_inventory_blank_keys :
    let tolerations : Inventory Toleration := SortedMap.ofList
      [(⟨"web".toList, "app".toList, "Deployment".toList⟩,
        [⟨.equal, ⟨"key".toList, [], none⟩⟩, ⟨.exists, ⟨[' '], [], none⟩⟩])]
    let taints : Inventory Taint := SortedMap.ofList
      [(⟨[], "node-a".toList, "Node".toList⟩, [⟨"key".toList, [], none⟩, ⟨[' '], [], none⟩]),
        (⟨[], "node-b".toList, "Node".toList⟩, [])]
    ((∀ entry ∈ tolerations.entries, '\n' ∉ entry.1.ns ∧ '\n' ∉ entry.1.name ∧ ∀ t ∈ entry.2, t.taint.Avoids ['\n']) ∧
        ShowsInventory true tolerations (fun _ => false) ∧
        (shownLines ((Report.ofInventory tolerations).render .table true)).length = 3) ∧
      (∀ entry ∈ taints.entries, '\n' ∉ entry.1.ns ∧ '\n' ∉ entry.1.name ∧ ∀ t ∈ entry.2, t.Avoids ['\n']) ∧
        (shownLines ((Report.ofInventory taints).render .table true)).length = 3 := by
  intro tolerations taints
  have honTolerations : ∀ entry ∈ tolerations.entries,
      '\n' ∉ entry.1.ns ∧ '\n' ∉ entry.1.name ∧ ∀ t ∈ entry.2, t.taint.Avoids ['\n'] := by decide
  have honTaints : ∀ entry ∈ taints.entries,
      '\n' ∉ entry.1.ns ∧ '\n' ∉ entry.1.name ∧ ∀ t ∈ entry.2, t.Avoids ['\n'] := by decide
  have htolerations := (shows_inventory true).1 tolerations honTolerations
  have hshown := htolerations.count
  have hlost := ((shows_inventory true).2 taints honTaints).count
  have hitems : true.toNat + (tolerations.entries.map lineCount).sum = 3 := by decide
  have hmarks : true.toNat + (taints.entries.map lineCount).sum = 4 := by decide
  have hblank : (taints.entries.countP fun entry => entry.2.getLast?.any fun t =>
      Text.isBlank t.print && (decide (2 ≤ entry.2.length) || Text.isBlank entry.1.name)) = 1 := by decide
  rw [hitems, List.countP_false, Function.const_apply] at hshown
  rw [hmarks, hblank] at hlost
  exact ⟨⟨honTolerations, htolerations, by omega⟩, honTaints, by omega⟩

end TaintSummary.Table
