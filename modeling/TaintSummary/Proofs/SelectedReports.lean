import Mathlib.Data.List.Nodup
import TaintSummary.Proofs.CommandLine.Adding
import TaintSummary.Proofs.ListingOrder
import TaintSummary.Proofs.Selection
import TaintSummary.Proofs.Specifier

/-!
# Reports with a selector

What becomes of a report when a selector is added to the command line. The specifier of an item, pasted as the expression, selects
the resources with that item (`pasted_entry_selects`). And the two selections of one expression are not the halves of the report:
together they cover it, but a resource whose list has the thing somewhere before its last element is in both (`selections_cover`).
-/

namespace TaintSummary

open CommandLine (Adds Unselected argument)

namespace Summary

/-- The report of the objects that is printed. -/
def report (α : Type) [Listed α] [DecidableEq α] (s : Settings) (kind : Text) (objects : List Object) :
    Except RunError Report :=
  (criterion α s.filter).bind fun c =>
    ((Inventory.ofObjects kind objects).mapError .unreadable).map fun inv => Report.ofInventory (keep c inv)

variable {α : Type} [Listed α] [DecidableEq α] {s : Settings} {kind : Text} {objects : List Object}

/-- A summary is the report as text, with a line break after it. -/
theorem ofFilter_eq_report :
    ofFilter α s kind objects =
      (report α s kind objects).map fun r => r.render s.format (!s.noHeaders) ++ ['\n'] := by
  unfold ofFilter report
  cases criterion α s.filter with
  | error e => rfl
  | ok c =>
    simp only [Except.bind, ofObjects]
    cases (Inventory.ofObjects kind objects : Except Unreadable (Inventory α)) <;> rfl

/-- Where the expression and the objects can be read, the report is that of the kept part of the inventory. -/
theorem report_eq {c : Criterion α} {inv : Inventory α} (hc : criterion α s.filter = .ok c)
    (hinv : Inventory.ofObjects kind objects = .ok inv) :
    report α s kind objects = .ok (Report.ofInventory (keep c inv)) := by
  rw [report, hc]
  simp only [Except.bind, hinv]
  rfl

end Summary

/-- The command line asks for the report of the objects and gets it, in the format that it asks for. -/
def Reports (α : Type) [listed : Listed α] [decEq : DecidableEq α] (args : List Text) (kind : Text) (objects : List Object)
    (r : Report) : Prop :=
  ∃ s, Program.settings args = .ok (.ok s) ∧ s.Summarizes α listed decEq ∧ Summary.report α s kind objects = .ok r ∧
    Summary.run s kind objects = .ok (r.render s.format (!s.noHeaders) ++ ['\n'])

/-- The command line asks for a report of the objects and gets it, in the format that it asks for. The report has the columns and one
row for each of the resources that are to be reported, and nothing else may come of it, whatever the order in which the resources
are visited. -/
def Shows (α : Type) [listed : Listed α] [decEq : DecidableEq α] (columns : List Text) (row : Resource → List α → List Text)
    (args : List Text) (kind : Text) (objects : List Object) (reported : List (Resource × List α) → Prop) : Prop :=
  ∃ s, Program.settings args = .ok (.ok s) ∧ s.Summarizes α listed decEq ∧
    Summary.MayEnd s kind objects (Summary.run s kind objects) ∧
    ∀ outcome, Summary.MayEnd s kind objects outcome → ∃ entries, reported entries ∧ entries.Nodup ∧
      outcome = .ok (Report.render s.format (!s.noHeaders) ⟨columns, entries.map fun e => row e.1 e.2⟩ ++ ['\n'])

section Reports

variable {α : Type} [listed : Listed α] [decEq : DecidableEq α] {args args' : List Text} {s : Settings} {kind : Text}
  {objects : List Object} {inv : Inventory α}

/-- What is summarized does not depend on the filter. -/
theorem Settings.Summarizes.of_filter (h : s.Summarizes α listed decEq) (filter : Option Filter) :
    ({ s with filter } : Settings).Summarizes α listed decEq := by
  cases h with
  | taints command => exact .taints command
  | tolerations command => exact .tolerations command

/-- A command line whose expression and objects can be read gets the report of what its filter keeps. -/
theorem reports_of_settings {c : Summary.Criterion α} (hsettings : Program.settings args = .ok (.ok s))
    (hs : s.Summarizes α listed decEq) (hc : Summary.criterion α s.filter = .ok c)
    (hinv : Inventory.ofObjects kind objects = .ok inv) :
    Reports α args kind objects (Report.ofInventory (Summary.keep c inv)) := by
  have hreport := Summary.report_eq hc hinv
  refine ⟨s, hsettings, hs, hreport, ?_⟩
  rw [hs.run_eq, Summary.ofFilter_eq_report, hreport]
  rfl

/-- Without a selector everything is reported. -/
theorem reports_unselected (h : Unselected args s) (hs : s.Summarizes α listed decEq)
    (hinv : Inventory.ofObjects kind objects = .ok inv) : Reports α args kind objects (Report.ofInventory inv) := by
  have hc : Summary.criterion α s.filter = .ok none := by
    rw [h.filter_eq]
    rfl
  exact reports_of_settings h.settings_eq hs hc hinv

omit decEq in
/-- The criterion of a selector is its expression, read, and its selection. -/
theorem criterion_eq {selection : Selection} {expression : Text} {thing : α} (hparse : Listed.parse expression = .ok thing) :
    Summary.criterion α (some ⟨expression, selection⟩) = .ok (some (thing, selection)) := by
  rw [Summary.criterion, hparse]
  rfl

/-- With a selector the selection is reported. -/
theorem reports_selected (h : Unselected args s) (hs : s.Summarizes α listed decEq)
    (hinv : Inventory.ofObjects kind objects = .ok inv) {selection : Selection} {expression : Text} {thing : α}
    (hne : expression ≠ []) (hparse : Listed.parse expression = .ok thing)
    (hadds : Adds (argument selection expression) args args') :
    Reports α args' kind objects (Report.ofInventory (selection.apply thing inv)) :=
  reports_of_settings (h.settings_of_adds hne hadds) (hs.of_filter _) (criterion_eq hparse) hinv

/-- Where the filter's expression and the objects can be read, nothing but a text may come of them: the report of the resources that
are kept, visited in some order. -/
theorem exists_visited_of_mayEnd (hs : s.Summarizes α listed decEq) {c : Summary.Criterion α}
    (hc : Summary.criterion α s.filter = .ok c) (hinv : Inventory.ofObjects kind objects = .ok inv)
    {outcome : Except RunError Text} (h : Summary.MayEnd s kind objects outcome) :
    ∃ visited, visited.Perm (Summary.keep c inv).entries ∧
      outcome = .ok (Report.render s.format (!s.noHeaders) ⟨Listed.columns α,
        (sortBy (fun entry => Listed.labels α entry.1) visited).map Report.rowOf⟩ ++ ['\n']) := by
  cases outcome with
  | error e =>
    rw [Summary.MayEnd, hs.run_eq, Summary.ofFilter_eq_print hc hinv] at h
    cases h
  | ok text =>
    obtain ⟨c', inv', visited, hc', hinv', hvisited, rfl⟩ := (hs.mayPrint_iff kind objects text).mp h
    rw [hc] at hc'
    rw [hinv] at hinv'
    cases hc'
    cases hinv'
    exact ⟨visited, hvisited, rfl⟩

/-- With a selector the resources are shown whose lists are admitted. -/
theorem shows_selected (h : Unselected args s) (hs : s.Summarizes α listed decEq)
    (hinv : Inventory.ofObjects kind objects = .ok inv) {selection : Selection} {expression : Text} {thing : α}
    (hne : expression ≠ []) (hparse : Listed.parse expression = .ok thing)
    (hadds : Adds (argument selection expression) args args') :
    Shows α (Listed.columns α) (fun r items => Listed.labels α r ++ [Listed.printList items]) args' kind objects fun entries =>
      ∀ e, e ∈ entries ↔ e ∈ inv.entries ∧ selection.Admits thing e.2 := by
  refine ⟨_, h.settings_of_adds hne hadds, hs.of_filter _, Summary.mayEnd_run _ kind objects, fun outcome houtcome => ?_⟩
  obtain ⟨visited, hvisited, rfl⟩ := exists_visited_of_mayEnd (hs.of_filter _) (criterion_eq hparse) hinv houtcome
  have hperm : (sortBy (fun entry => Listed.labels α entry.1) visited).Perm (selection.apply thing inv).entries :=
    (sortBy_perm _ visited).trans hvisited
  refine ⟨_, fun e => ?_, hperm.nodup_iff.mpr (SortedMap.nodup_entries _), rfl⟩
  rw [hperm.mem_iff, Selection.mem_apply_iff]

/-- What is shown is shown under a weaker condition. -/
theorem Shows.imp {columns : List Text} {row : Resource → List α → List Text}
    {reported reported' : List (Resource × List α) → Prop} (h : Shows α columns row args kind objects reported)
    (himp : ∀ entries, reported entries → reported' entries) : Shows α columns row args kind objects reported' := by
  obtain ⟨s, hsettings, hs, hends, hall⟩ := h
  refine ⟨s, hsettings, hs, hends, fun outcome houtcome => ?_⟩
  obtain ⟨entries, hreported, hentries⟩ := hall outcome houtcome
  exact ⟨entries, himp entries hreported, hentries⟩

end Reports

/-- The specifier of an item of a resource, pasted as the expression of a selector, selects what it shows. The report has the columns
and rows made so of a resource and its list. -/
structure SelectsShown {α : Type} [Listed α] [DecidableEq α] (columns : List Text) (row : Resource → List α → List Text)
    (args : List Text) (kind : Text) (objects : List Object) (inv : Inventory α) (source : Resource × List α) (item : α) :
    Prop where
  /-- The selector can be added. -/
  added : ∀ selection, ∃ args', Adds (argument selection (Listed.print item)) args args'
  /-- As a match it selects the resources with an item that equals it, the one that it comes from among them. -/
  matching : ∀ args', Adds (argument .matching (Listed.print item)) args args' →
    Shows α columns row args' kind objects fun entries =>
      source ∈ entries ∧ ∀ e, e ∈ entries ↔ e ∈ inv.entries ∧ item ∈ e.2
  /-- Otherwise those that have no items or another one last. -/
  unmatched : ∀ args', Adds (argument .unmatched (Listed.print item)) args args' →
    Shows α columns row args' kind objects fun entries =>
      ∀ e, e ∈ entries ↔ e ∈ inv.entries ∧ (e.2 = [] ∨ ∃ last, e.2.getLast? = some last ∧ last ≠ item)

/-- An item whose specifier can be read back selects what it shows. -/
theorem selectsShown_of_parse_print {α : Type} [listed : Listed α] [decEq : DecidableEq α] {args : List Text} {s : Settings}
    {kind : Text} {objects : List Object} {inv : Inventory α} {source : Resource × List α} {item : α} (h : Unselected args s)
    (hs : s.Summarizes α listed decEq) (hinv : Inventory.ofObjects kind objects = .ok inv) (hsource : source ∈ inv.entries)
    (hitem : item ∈ source.2) (hne : Listed.print item ≠ []) (hparse : Listed.parse (Listed.print item) = .ok item) :
    SelectsShown (Listed.columns α) (fun r items => Listed.labels α r ++ [Listed.printList items]) args kind objects inv source
      item where
  added := by
    obtain ⟨a, hargs, -⟩ := h
    exact fun selection => CommandLine.exists_adds hargs _
  matching := fun args' hadds => (shows_selected h hs hinv hne hparse hadds).imp fun entries hmem =>
    ⟨(hmem source).mpr ⟨hsource, hitem⟩, hmem⟩
  unmatched := fun args' hadds => shows_selected h hs hinv hne hparse hadds

/-- An entry of a report selects what it shows when it is pasted: a taint with a specifier that is not empty and without `:` and `=`
in its key and its value, and a toleration that has no `)` in them either. A report of taints shows a resource as its name and its
list, and one of tolerations as its namespace, its name and its list. -/
theorem pasted_entry_selects {args : List Text} {s : Settings} (h : Unselected args s) (kind : Text) (objects : List Object) :
    (s.command = .taints → ∀ inv : Inventory Taint, Inventory.ofObjects kind objects = .ok inv →
        ∀ source ∈ inv.entries, ∀ item ∈ source.2, item.print ≠ [] → item.Avoids [':', '='] →
          SelectsShown ["NAME".toList, "TAINTS".toList] (fun r taints => [r.name, Listed.printList taints])
            args kind objects inv source item) ∧
      ∀ apiVersion name, s.command = .tolerations apiVersion name →
        ∀ inv : Inventory Toleration, Inventory.ofObjects kind objects = .ok inv →
          ∀ source ∈ inv.entries, ∀ item ∈ source.2, item.print ≠ [] → item.taint.Avoids [':', '=', ')'] →
            SelectsShown ["NAMESPACE".toList, "NAME".toList, "TOLERATIONS".toList]
              (fun r tolerations => [r.ns, r.name, Listed.printList tolerations]) args kind objects inv source item := by
  constructor
  · intro hcommand inv hinv source hsource item hitem hne havoids
    have hparse : Taint.parse item.print = .ok item := Taint.parseBody_print_iff.mpr havoids
    exact selectsShown_of_parse_print h (.taints hcommand) hinv hsource hitem hne hparse
  · intro apiVersion name hcommand inv hinv source hsource item hitem hne havoids
    have hparse : Toleration.parse item.print = .ok item := (Toleration.parse_print_eq_ok_iff item).mpr havoids
    exact selectsShown_of_parse_print h (.tolerations hcommand) hinv hsource hitem hne hparse

/-- A taint of a node and a toleration of a deployment, each the only item. -/
theorem pasted_entry_selects_only_items :
    let node : Object := ⟨[], "db".toList,
      .object [("spec".toList, .object [("taints".toList, .array [.object [("key".toList, .string "ssd".toList)]])])]⟩
    let deployment : Object := ⟨"prod".toList, "web".toList, .object [("spec".toList, .object [("template".toList,
      .object [("spec".toList, .object [("tolerations".toList,
        .array [.object [("key".toList, .string "ssd".toList), ("operator".toList, .string "Exists".toList)]])])])])]⟩
    let taint : Taint := ⟨"ssd".toList, [], none⟩
    let toleration : Toleration := ⟨.exists, taint⟩
    let tainted : Resource × List Taint := (⟨[], "db".toList, "Node".toList⟩, [taint])
    let tolerant : Resource × List Toleration := (⟨"prod".toList, "web".toList, "Deployment".toList⟩, [toleration])
    SelectsShown ["NAME".toList, "TAINTS".toList] (fun r taints => [r.name, Listed.printList taints])
        ["taints".toList, "-o".toList, "csv".toList] "Node".toList [node] (SortedMap.ofList [tainted]) tainted taint ∧
      SelectsShown ["NAMESPACE".toList, "NAME".toList, "TOLERATIONS".toList]
        (fun r tolerations => [r.ns, r.name, Listed.printList tolerations])
        ["tolerations".toList, "apps/v1".toList, "deployments".toList] "Deployment".toList [deployment]
        (SortedMap.ofList [tolerant]) tolerant toleration := by
  intro node deployment taint toleration tainted tolerant
  have hnodes : Unselected ["taints".toList, "-o".toList, "csv".toList]
      ⟨.taints, none, none, none, none, .csv, false, false⟩ := ⟨_, rfl, rfl, rfl⟩
  have hdeployments : Unselected ["tolerations".toList, "apps/v1".toList, "deployments".toList]
      ⟨.tolerations "apps/v1".toList "deployments".toList, none, none, none, none, .table, false, false⟩ := ⟨_, rfl, rfl, rfl⟩
  constructor
  · exact (pasted_entry_selects hnodes "Node".toList [node]).1 rfl _ rfl tainted List.mem_cons_self taint List.mem_cons_self
      (by decide) (by decide)
  · exact (pasted_entry_selects hdeployments "Deployment".toList [deployment]).2 _ _ rfl _ rfl tolerant List.mem_cons_self
      toleration List.mem_cons_self (by decide) (by decide)

/-- What the reports of the two selections have to do with the report of everything. -/
structure Covers {α : Type} [Listed α] (inv : Inventory α) (thing : α) (all matched unmatched : Report) : Prop where
  /-- There is one row for each resource. -/
  rows : ∀ row, row ∈ all.rows ↔ ∃ e ∈ inv.entries, Report.rowOf e = row
  nodup : all.rows.Nodup
  matched_sublist : matched.rows.Sublist all.rows
  unmatched_sublist : unmatched.rows.Sublist all.rows
  cover : ∀ row ∈ all.rows, row ∈ matched.rows ∨ row ∈ unmatched.rows
  /-- The row of a resource is in both when the thing is in its list, but not at the end. -/
  overlap : ∀ e ∈ inv.entries,
    (Report.rowOf e ∈ matched.rows ∧ Report.rowOf e ∈ unmatched.rows) ↔ thing ∈ e.2 ∧ e.2.getLast? ≠ some thing

section Covers

variable {α : Type} [Listed α] [DecidableEq α] {inv : Inventory α}

omit [DecidableEq α] in
/-- Resources that are shown differently have different rows. -/
theorem nodup_rows {entries : List (Resource × List α)} (h : (entries.map fun e => Listed.labels α e.1).Nodup) :
    (entries.map Report.rowOf).Nodup := by
  refine List.Pairwise.map Report.rowOf (fun e e' hne heq => hne ?_) (List.pairwise_map.mp h)
  exact (List.append_inj' heq rfl).1

omit [DecidableEq α] in
theorem rows_ofInventory (inv : Inventory α) :
    (Report.ofInventory inv).rows = (sortBy (fun e => Listed.labels α e.1) inv.entries).map Report.rowOf := rfl

omit [DecidableEq α] in
/-- The rows of a report are those of the entries of the inventory. -/
theorem mem_rows_ofInventory {row : List Text} :
    row ∈ (Report.ofInventory inv).rows ↔ ∃ e ∈ inv.entries, Report.rowOf e = row := by
  have hperm := sortBy_perm (fun e => Listed.labels α e.1) inv.entries
  rw [rows_ofInventory, List.mem_map]
  simp only [hperm.mem_iff]

section Distinct

variable (h : (inv.entries.map fun e => Listed.labels α e.1).Nodup)
include h

/-- A selection keeps the order of the rows. -/
theorem rows_apply_sublist (selection : Selection) (thing : α) :
    (Report.ofInventory (selection.apply thing inv)).rows.Sublist (Report.ofInventory inv).rows := by
  have hfilter : sortBy (fun e => Listed.labels α e.1) (selection.apply thing inv).entries =
      (sortBy (fun e => Listed.labels α e.1) inv.entries).filter fun e => selection.keeps thing e.2 :=
    sortBy_filter _ h
  rw [rows_ofInventory, rows_ofInventory, hfilter]
  exact List.filter_sublist.map Report.rowOf

omit [DecidableEq α] in
/-- A row tells its resource and its list. -/
theorem rowOf_injOn {e e' : Resource × List α} (he : e ∈ inv.entries) (he' : e' ∈ inv.entries)
    (heq : Report.rowOf e = Report.rowOf e') : e = e' :=
  List.inj_on_of_nodup_map (nodup_rows h) he he' heq

/-- The row of a resource is in the report of a selection when its list is admitted. -/
theorem rowOf_mem_rows_apply_iff {selection : Selection} {thing : α} {e : Resource × List α} (he : e ∈ inv.entries) :
    Report.rowOf e ∈ (Report.ofInventory (selection.apply thing inv)).rows ↔ selection.Admits thing e.2 := by
  rw [mem_rows_ofInventory]
  constructor
  · rintro ⟨e', hmem, heq⟩
    obtain ⟨he', hadmits⟩ := Selection.mem_apply_iff.mp hmem
    rwa [rowOf_injOn h he' he heq] at hadmits
  · exact fun hadmits => ⟨e, Selection.mem_apply_iff.mpr ⟨he, hadmits⟩, rfl⟩

/-- The two selections cover the inventory and share what the thing is in but not last. -/
theorem covers_apply (thing : α) :
    Covers inv thing (Report.ofInventory inv) (Report.ofInventory (Selection.matching.apply thing inv))
      (Report.ofInventory (Selection.unmatched.apply thing inv)) where
  rows := fun row => mem_rows_ofInventory
  nodup := by
    have hperm := sortBy_perm (fun e => Listed.labels α e.1) inv.entries
    exact nodup_rows ((hperm.map _).nodup_iff.mpr h)
  matched_sublist := rows_apply_sublist h .matching thing
  unmatched_sublist := rows_apply_sublist h .unmatched thing
  cover := by
    intro row hrow
    obtain ⟨e, he, rfl⟩ := mem_rows_ofInventory.mp hrow
    rw [rowOf_mem_rows_apply_iff h he, rowOf_mem_rows_apply_iff h he]
    exact Selection.admits_or_admits thing e.2
  overlap := by
    intro e he
    rw [rowOf_mem_rows_apply_iff h he, rowOf_mem_rows_apply_iff h he, Selection.admits_unmatched_iff]
    rfl

end Distinct

omit [DecidableEq α] in
/-- The resources of objects that are shown differently are shown differently. -/
theorem nodup_labels_of_ofObjects {kind : Text} {objects : List Object}
    (h : (objects.map fun o => Listed.labels α (o.resource kind)).Nodup) (hinv : Inventory.ofObjects kind objects = .ok inv) :
    (inv.entries.map fun e => Listed.labels α e.1).Nodup := by
  obtain ⟨es, hes, rfl⟩ := Inventory.ofObjects_eq_ok_iff.mp hinv
  rw [← Summary.map_labels_of_mapM hes] at h
  have hperm : (SortedMap.ofList es).entries.Perm es :=
    SortedMap.entries_ofList_perm (Summary.nodup_fst_of_nodup_labels h)
  exact (hperm.map _).nodup_iff.mpr h

end Covers

/-- For objects with distinct sort keys the reports of the two selections of one expression cover the report without a selector,
each in its order, and share the resources whose lists have the thing, but not at the end. -/
theorem selections_cover {α : Type} [listed : Listed α] [decEq : DecidableEq α] {args : List Text} {s : Settings}
    (h : Unselected args s) (hs : s.Summarizes α listed decEq) {kind : Text} {objects : List Object}
    (hdistinct : (objects.map s.sortKey).Nodup) {inv : Inventory α} (hinv : Inventory.ofObjects kind objects = .ok inv)
    {expression : Text} (hne : expression ≠ []) {thing : α} (hparse : Listed.parse expression = .ok thing)
    {matchArgs noMatchArgs : List Text} (hmatching : Adds (argument .matching expression) args matchArgs)
    (hunmatched : Adds (argument .unmatched expression) args noMatchArgs) :
    ∃ all matched unmatched, Reports α args kind objects all ∧ Reports α matchArgs kind objects matched ∧
      Reports α noMatchArgs kind objects unmatched ∧ Covers inv thing all matched unmatched := by
  rw [hs.sortKey_eq kind] at hdistinct
  have hlabels := nodup_labels_of_ofObjects hdistinct hinv
  exact ⟨_, _, _, reports_unselected h hs hinv, reports_selected h hs hinv hne hparse hmatching,
    reports_selected h hs hinv hne hparse hunmatched, covers_apply hlabels thing⟩

/-- Two nodes with the thing, one of them with another taint after it: this one is in both reports. -/
theorem selections_cover_two_nodes :
    let taint (key : Text) : Json := .object [("key".toList, .string key)]
    let node (name : Text) (taints : List Json) : Object :=
      ⟨[], name, .object [("spec".toList, .object [("taints".toList, .array taints)])]⟩
    let objects : List Object := [node "db".toList [taint "ssd".toList],
      node "web".toList [taint "ssd".toList, taint "gpu".toList]]
    let ssd : Taint := ⟨"ssd".toList, [], none⟩
    let inv : Inventory Taint := SortedMap.ofList [(⟨[], "db".toList, "Node".toList⟩, [ssd]),
      (⟨[], "web".toList, "Node".toList⟩, [ssd, ⟨"gpu".toList, [], none⟩])]
    ∃ all matched unmatched, Reports Taint ["taints".toList, "-o".toList, "csv".toList] "Node".toList objects all ∧
      Reports Taint ["taints".toList, argument .matching "ssd".toList, "-o".toList, "csv".toList] "Node".toList objects matched ∧
      Reports Taint ["taints".toList, "-o".toList, "csv".toList, argument .unmatched "ssd".toList] "Node".toList objects
        unmatched ∧
      Covers inv ssd all matched unmatched := by
  intro taint node objects ssd inv
  have h : Unselected ["taints".toList, "-o".toList, "csv".toList]
      ⟨.taints, none, none, none, none, .csv, false, false⟩ := ⟨_, rfl, rfl, rfl⟩
  have hleads : CommandLine.Leads ["taints".toList] .empty .taints := fun _ => rfl
  have hmatching : Adds (argument .matching "ssd".toList) ["taints".toList, "-o".toList, "csv".toList]
      ["taints".toList, argument .matching "ssd".toList, "-o".toList, "csv".toList] :=
    @Adds.intro _ _ [] ["-o".toList, "csv".toList] _ _ _ hleads rfl rfl rfl
  have hunmatched : Adds (argument .unmatched "ssd".toList) ["taints".toList, "-o".toList, "csv".toList]
      ["taints".toList, "-o".toList, "csv".toList, argument .unmatched "ssd".toList] :=
    @Adds.intro _ _ ["-o".toList, "csv".toList] [] _ _ _ hleads rfl rfl rfl
  have hinv : Inventory.ofObjects "Node".toList objects = .ok inv := rfl
  have hparse : Taint.parse "ssd".toList = .ok ssd := rfl
  exact selections_cover h (.taints rfl) (by decide) hinv (by decide) hparse hmatching hunmatched

end TaintSummary
