import TaintSummary.Report.Format

/-!
# Reading comma-separated values

What is written as comma-separated values is read again: a cell, with what follows it left open (`readFrom_cell`), then a row, then
rows on lines of their own (`read_join_row`). A row without cells and a report without lines have no written form of their own, and
column names are written without quotes; apart from that every report is read as it was (`read_render`).
-/

namespace TaintSummary.Csv

/-- A field may end before the text: it is at its end, or at a comma or a line feed. -/
def EndsField (rest : Text) : Prop := ∀ c, rest.head? = some c → c = ',' ∨ c = '\n'

theorem endsField_nil : EndsField [] := fun _ h => nomatch h

theorem endsField_cons {c : Char} (hc : c = ',' ∨ c = '\n') (rest : Text) : EndsField (c :: rest) := by
  intro d hd
  cases hd
  exact hc

theorem EndsField.head?_ne_quote {rest : Text} (h : EndsField rest) : rest.head? ≠ some '"' := by
  intro hquote
  rcases h '"' hquote with hc | hc <;> simp at hc

/-- The characters of a text that needs no quotes stand for themselves. -/
theorem ne_of_needsQuotes_eq_false {t : Text} (h : needsQuotes t = false) {c : Char} (hc : c ∈ t) :
    c ≠ ',' ∧ c ≠ '"' ∧ c ≠ '\n' := by
  have hplain := List.any_eq_false.mp h c hc
  simp only [Bool.or_eq_true, decide_eq_true_eq, not_or] at hplain
  exact ⟨hplain.1.1, hplain.1.2, hplain.2⟩

theorem needsQuotes_eq_false_of_not_mem {t : Text} (h : ∀ c ∈ [',', '"', '\n'], c ∉ t) : needsQuotes t = false := by
  refine List.any_eq_false.mpr fun c hc => ?_
  simp only [Bool.or_eq_true, decide_eq_true_eq]
  rintro ((rfl | rfl) | rfl) <;> exact h _ (by simp) hc

/-- A text is put in front of the first field. -/
theorem foldr_push (t field : Text) (fields : List Text) (records : List (List Text)) :
    t.foldr push ((field :: fields) :: records) = ((t ++ field) :: fields) :: records := by
  induction t with
  | nil => rfl
  | cons c t ih => rw [List.foldr_cons, ih, push, List.cons_append]

/-- Outside quotes every character but a comma and a line feed stands for itself. -/
theorem readFrom_bare_cons {c : Char} (hcomma : c ≠ ',') (hline : c ≠ '\n') (rest : Text) :
    readFrom .bare (c :: rest) = push c (readFrom .bare rest) := by
  rw [readFrom]
  · simpa using hcomma
  · simpa using hline

/-- So does the first character of a field, unless it is a quote. -/
theorem readFrom_start_cons {c : Char} (hcomma : c ≠ ',') (hquote : c ≠ '"') (hline : c ≠ '\n') (rest : Text) :
    readFrom .start (c :: rest) = push c (readFrom .bare rest) := by
  rw [readFrom]
  · simpa using hquote
  · simpa using hcomma
  · simpa using hline

theorem readFrom_bare_append {t : Text} (h : needsQuotes t = false) (rest : Text) :
    readFrom .bare (t ++ rest) = t.foldr push (readFrom .bare rest) := by
  induction t with
  | nil => rfl
  | cons c t ih =>
    obtain ⟨hcomma, -, hline⟩ := ne_of_needsQuotes_eq_false h (List.mem_cons_self (a := c) (l := t))
    have ht : needsQuotes t = false := (Bool.or_eq_false_iff.mp h).2
    rw [List.cons_append, readFrom_bare_cons hcomma hline, ih ht, List.foldr_cons]

/-- Inside quotes a doubled quote is one, and the next single one ends the quotes. -/
theorem readFrom_quoted_append (t : Text) {rest : Text} (h : rest.head? ≠ some '"') :
    readFrom .quoted (doubleQuotes t ++ '"' :: rest) = t.foldr push (readFrom .bare rest) := by
  induction t with
  | nil =>
    cases rest with
    | nil => rfl
    | cons c rest =>
      have hc : c ≠ '"' := fun e => h (by simp [e])
      simp [doubleQuotes, readFrom, hc]
  | cons c t ih =>
    have hcons : doubleQuotes (c :: t) = (if c = '"' then ['"', '"'] else [c]) ++ doubleQuotes t := List.flatMap_cons
    rw [hcons, List.append_assoc, List.foldr_cons, ← ih]
    by_cases hc : c = '"'
    · rw [if_pos hc, hc]
      rfl
    · rw [if_neg hc]
      simp [readFrom, hc]

/-- Where a field ends nothing has been read of it, whether or not it has begun. -/
theorem readFrom_start_of_endsField {rest : Text} (h : EndsField rest) : readFrom .start rest = readFrom .bare rest := by
  cases rest with
  | nil => rfl
  | cons c rest => rcases h c rfl with rfl | rfl <;> rfl

/-- A cell is read from what is written for it, whatever its characters. -/
theorem readFrom_cell (c : Text) {rest : Text} (h : EndsField rest) :
    readFrom .start (cell c ++ rest) = c.foldr push (readFrom .bare rest) := by
  unfold cell
  split
  · have hquoted : readFrom .start ('"' :: doubleQuotes c ++ ['"'] ++ rest) =
        readFrom .quoted (doubleQuotes c ++ '"' :: rest) := by
      simp [readFrom]
    rw [hquoted, readFrom_quoted_append c h.head?_ne_quote]
  · next hneeds =>
    have hplain : needsQuotes c = false := Bool.eq_false_iff.mpr hneeds
    rw [← readFrom_bare_append hplain rest]
    cases c with
    | nil => exact readFrom_start_of_endsField h
    | cons d c =>
      -- the first character opens no quotes, so that it does not matter that the field has not begun
      obtain ⟨hcomma, hquote, hline⟩ := ne_of_needsQuotes_eq_false hplain (List.mem_cons_self (a := d) (l := c))
      rw [List.cons_append, readFrom_start_cons hcomma hquote hline, readFrom_bare_cons hcomma hline]

/-- A row is read from what is written for it, up to where its record ends. -/
theorem readFrom_row {cells : List Text} (hne : cells ≠ []) {rest : Text} {records : List (List Text)}
    (hends : EndsField rest) (hrest : readFrom .bare rest = [[]] :: records) :
    readFrom .start (row cells ++ rest) = cells :: records := by
  induction cells with
  | nil => exact absurd rfl hne
  | cons c cells ih =>
    cases cells with
    | nil =>
      have hrow : row [c] = cell c := rfl
      rw [hrow, readFrom_cell c hends, hrest, foldr_push, List.append_nil]
    | cons d cells =>
      have hrow : row (c :: d :: cells) ++ rest = cell c ++ ',' :: (row (d :: cells) ++ rest) := by
        simp [row, Text.join]
      have hcomma : readFrom .bare (',' :: (row (d :: cells) ++ rest)) =
          pushField (readFrom .start (row (d :: cells) ++ rest)) := rfl
      rw [hrow, readFrom_cell c (endsField_cons (Or.inl rfl) _), hcomma, ih (List.cons_ne_nil d cells), pushField,
        foldr_push, List.append_nil]

/-- Rows on lines of their own are read again. -/
theorem read_join_row {lines : List (List Text)} (hne : lines ≠ []) (hcells : ∀ cells ∈ lines, cells ≠ []) :
    read (Text.join ['\n'] (lines.map row)) = lines := by
  induction lines with
  | nil => exact absurd rfl hne
  | cons cells lines ih =>
    obtain ⟨hfirst, hrest⟩ := List.forall_mem_cons.mp hcells
    cases lines with
    | nil =>
      have hread := readFrom_row hfirst endsField_nil rfl
      rwa [List.append_nil] at hread
    | cons next lines =>
      have hjoin : Text.join ['\n'] ((cells :: next :: lines).map row) =
          row cells ++ '\n' :: Text.join ['\n'] ((next :: lines).map row) := by
        simp [Text.join]
      have hline : readFrom .bare ('\n' :: Text.join ['\n'] ((next :: lines).map row)) =
          [[]] :: read (Text.join ['\n'] ((next :: lines).map row)) := rfl
      rw [ih (List.cons_ne_nil next lines) hrest] at hline
      rw [hjoin]
      exact readFrom_row hfirst (endsField_cons (Or.inr rfl) _) hline

/-- Names that need no quotes are written like the cells of a row. -/
theorem join_eq_row {names : List Text} (h : ∀ name ∈ names, needsQuotes name = false) :
    Text.join [','] names = row names := by
  have hcell : ∀ name ∈ names, cell name = name := fun name hname => if_neg (by simp [h name hname])
  rw [row, List.map_congr_left hcell, List.map_id']

/-- Reports whose rows have cells are read from their comma-separated values: the rows alone, if there are any, and the rows after
the column names, if these need no quotes. -/
theorem read_render (r : Report) (hrows : ∀ cells ∈ r.rows, cells ≠ []) :
    (r.rows ≠ [] → read (r.render .csv false) = r.rows) ∧
      (r.columns ≠ [] → (∀ name ∈ r.columns, ∀ c ∈ [',', '"', '\n'], c ∉ name) →
        read (r.render .csv true) = r.columns :: r.rows) := by
  constructor
  · intro hne
    exact read_join_row hne hrows
  · intro hcolumns hnames
    have hheader : Text.join [','] r.columns = row r.columns :=
      join_eq_row fun name hname => needsQuotes_eq_false_of_not_mem (hnames name hname)
    have hrender : r.render .csv true = Text.join ['\n'] ((r.columns :: r.rows).map row) := by
      rw [Report.render, render, hheader]
      rfl
    rw [hrender]
    exact read_join_row (List.cons_ne_nil _ _) (List.forall_mem_cons.mpr ⟨hcolumns, hrows⟩)

/-- Cells with every separator, an empty cell, and rows of different lengths. -/
theorem read_render_ragged_rows :
    let r : Report := ⟨["NAME".toList, "TAINTS".toList],
      [["a,\"b\"".toList, "key=value,\nkey2".toList, []], ["\r".toList], [[]]]⟩
    (∀ cells ∈ r.rows, cells ≠ []) ∧ (r.rows ≠ [] ∧ read (r.render .csv false) = r.rows) ∧
      r.columns ≠ [] ∧ (∀ name ∈ r.columns, ∀ c ∈ [',', '"', '\n'], c ∉ name) ∧
        read (r.render .csv true) = r.columns :: r.rows := by
  intro r
  have hrows : ∀ cells ∈ r.rows, cells ≠ [] := by decide
  have hne : r.rows ≠ [] := by decide
  have hcolumns : r.columns ≠ [] := by decide
  have hnames : ∀ name ∈ r.columns, ∀ c ∈ [',', '"', '\n'], c ∉ name := by simp [r]
  obtain ⟨hplain, hheaders⟩ := read_render r hrows
  exact ⟨hrows, ⟨hne, hplain hne⟩, hcolumns, hnames, hheaders hcolumns hnames⟩

end TaintSummary.Csv
