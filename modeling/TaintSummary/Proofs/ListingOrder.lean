import TaintSummary.Proofs.Order
import TaintSummary.Proofs.Summary

/-!
# The order of the objects does not show

An inventory has no order of its own: that its entries stand in the order of the resources is a matter of how it is written down.
So what may be printed is said for every order in which the resources are visited before they are sorted (`Summary.MayPrint`), and
what may come of a summary is one of these texts or its error (`Summary.MayEnd`). A report is sorted by what it shows of the
resources. As long as no two objects share that, it does not matter in what order the resources are visited, nor in what order the
objects are listed, and there is one text only (`run_eq_of_perm`).
-/

namespace TaintSummary

/-- What a report is sorted by: the name of an object, or its namespace and its name. -/
def Settings.sortKey (s : Settings) (o : Object) : List Text :=
  match s.command with
  | .taints => [o.name]
  | .tolerations .. => [o.ns, o.name]

namespace Summary

/-- The text may be printed for the objects when the resources that are kept are visited in any order before they are sorted. -/
def MayPrintFor (α : Type) [Listed α] [DecidableEq α] (s : Settings) (kind : Text) (objects : List Object) (text : Text) :
    Prop :=
  ∃ (c : Criterion α) (inv : Inventory α) (visited : List (Resource × List α)),
    criterion α s.filter = .ok c ∧ Inventory.ofObjects kind objects = .ok inv ∧ visited.Perm (keep c inv).entries ∧
      text = Report.render s.format (!s.noHeaders)
        ⟨Listed.columns α, (sortBy (fun entry => Listed.labels α entry.1) visited).map Report.rowOf⟩ ++ ['\n']

/-- The same for the summary that the settings ask for. -/
def MayPrint (s : Settings) (kind : Text) (objects : List Object) (text : Text) : Prop :=
  match s.command with
  | .taints => MayPrintFor Taint s kind objects text
  | .tolerations .. => MayPrintFor Toleration s kind objects text

/-- What may come of the summary: a text that may be printed, or the error. -/
def MayEnd (s : Settings) (kind : Text) (objects : List Object) : Except RunError Text → Prop
  | .ok text => MayPrint s kind objects text
  | .error e => run s kind objects = .error e

section Listed

variable {α : Type} [Listed α] [DecidableEq α] {s : Settings} {c : Criterion α} {kind : Text} {objects : List Object}

omit [DecidableEq α] in
/-- The entries show what the objects show. -/
theorem map_labels_of_mapM {es : List (Resource × List α)} (h : objects.mapM (Inventory.readObject kind) = .ok es) :
    (es.map fun entry => Listed.labels α entry.1) = objects.map fun o => Listed.labels α (o.resource kind) :=
  map_of_mapM (fun _ _ ho => congrArg (Listed.labels α) (Inventory.readObject_eq_ok_iff.mp ho).1.symm) h

omit [DecidableEq α] in
/-- Resources are distinct when what is shown of them is. -/
theorem nodup_fst_of_nodup_labels {es : List (Resource × List α)}
    (h : (es.map fun entry => Listed.labels α entry.1).Nodup) : (es.map Prod.fst).Nodup := by
  have hlabels : ((es.map Prod.fst).map (Listed.labels α)).Nodup := by rwa [List.map_map]
  exact List.Pairwise.of_map (Listed.labels α) (fun _ _ hne heq => hne (congrArg _ heq)) hlabels

omit [Listed α] in
/-- A criterion keeps an entry or not by the entry alone. -/
theorem exists_keep_eq_filter (c : Criterion α) :
    ∃ p : Resource × List α → Bool, ∀ inv, (keep c inv).entries = inv.entries.filter p := by
  cases c with
  | none => exact ⟨fun _ => true, fun inv => (List.filter_eq_self.mpr fun _ _ => rfl).symm⟩
  | some criterion => exact ⟨fun entry => criterion.2.keeps criterion.1 entry.2, fun inv => rfl⟩

/-- The entries that are kept of the same entries are sorted in one way, however they were put in and however they are visited. -/
theorem sortBy_visited {es es' visited : List (Resource × List α)} (hperm : es.Perm es')
    (hdistinct : (es.map fun entry => Listed.labels α entry.1).Nodup)
    (hvisited : visited.Perm (keep c (SortedMap.ofList es)).entries) :
    sortBy (fun entry => Listed.labels α entry.1) visited =
      sortBy (fun entry => Listed.labels α entry.1) (keep c (SortedMap.ofList es')).entries := by
  obtain ⟨p, hkeep⟩ := exists_keep_eq_filter c
  have hdistinct' : (es'.map fun entry => Listed.labels α entry.1).Nodup := (hperm.map _).nodup_iff.mp hdistinct
  -- filtering the map and filtering the list keep the same entries, up to their order
  have hentries : (SortedMap.ofList es).entries.Perm es :=
    SortedMap.entries_ofList_perm (nodup_fst_of_nodup_labels hdistinct)
  have hentries' : (SortedMap.ofList es').entries.Perm es' :=
    SortedMap.entries_ofList_perm (nodup_fst_of_nodup_labels hdistinct')
  rw [hkeep] at hvisited
  rw [hkeep]
  have hkept : visited.Perm (es.filter p) := hvisited.trans (hentries.filter p)
  have hsame : visited.Perm ((SortedMap.ofList es').entries.filter p) :=
    hkept.trans ((hperm.trans hentries'.symm).filter p)
  refine sortBy_eq_of_perm hsame ?_
  have hsublist : ((es.filter p).map fun entry => Listed.labels α entry.1).Nodup :=
    hdistinct.sublist (List.filter_sublist.map _)
  exact (hkept.map _).nodup_iff.mpr hsublist

/-- What is printed may be printed: the resources are visited in their own order. -/
theorem mayPrintFor_of_ofFilter {text : Text} (h : ofFilter α s kind objects = .ok text) :
    MayPrintFor α s kind objects text := by
  obtain ⟨c, hc, hobjects⟩ := bind_eq_ok_iff.mp h
  obtain ⟨inv, hinv, rfl⟩ := map_eq_ok_iff.mp hobjects
  exact ⟨c, inv, (keep c inv).entries, hc, mapError_eq_ok_iff.mp hinv, .refl _, rfl⟩

/-- What may be printed for objects is printed for them in every order. -/
theorem ofFilter_of_mayPrintFor {objects' : List Object} {text : Text} (hperm : objects.Perm objects')
    (hdistinct : (objects.map fun o => Listed.labels α (o.resource kind)).Nodup)
    (h : MayPrintFor α s kind objects text) : ofFilter α s kind objects' = .ok text := by
  obtain ⟨c, inv, visited, hc, hinv, hvisited, rfl⟩ := h
  obtain ⟨es, hes, rfl⟩ := Inventory.ofObjects_eq_ok_iff.mp hinv
  obtain ⟨es', hes', hentries⟩ := mapM_perm hperm hes
  rw [← map_labels_of_mapM hes] at hdistinct
  rw [ofFilter_eq_print hc (Inventory.ofObjects_eq_ok_iff.mpr ⟨es', hes', rfl⟩), sortBy_visited hentries hdistinct hvisited]
  rfl

end Listed

end Summary

namespace Settings.Summarizes

variable {s : Settings} {α : Type} [listed : Listed α] [decEq : DecidableEq α] (h : s.Summarizes α listed decEq)
include h

/-- The sort key of an object is what a report shows of its resource. -/
theorem sortKey_eq (kind : Text) : s.sortKey = fun o => Listed.labels α (o.resource kind) := by
  funext o
  cases h with
  | taints command =>
    simp only [sortKey, command]
    rfl
  | tolerations command =>
    simp only [sortKey, command]
    rfl

/-- What may be printed is so for the type of lists that the command summarizes. -/
theorem mayPrint_iff (kind : Text) (objects : List Object) (text : Text) :
    Summary.MayPrint s kind objects text ↔ Summary.MayPrintFor α s kind objects text := by
  cases h with
  | taints command => simp only [Summary.MayPrint, command]
  | tolerations command => simp only [Summary.MayPrint, command]

end Settings.Summarizes

namespace Summary

variable {s : Settings} {kind : Text} {objects objects' : List Object} {text : Text}

/-- What is printed may be printed. -/
theorem mayPrint_of_run (h : run s kind objects = .ok text) : MayPrint s kind objects text := by
  obtain ⟨α, _, _, hs⟩ := s.exists_summarizes
  rw [hs.run_eq] at h
  rw [hs.mayPrint_iff]
  exact mayPrintFor_of_ofFilter h

/-- Without two objects of one sort key, what may be printed is printed, in whatever order the objects are listed. -/
theorem run_of_mayPrint (hperm : objects.Perm objects') (hdistinct : (objects.map s.sortKey).Nodup)
    (h : MayPrint s kind objects text) : run s kind objects' = .ok text := by
  obtain ⟨α, _, _, hs⟩ := s.exists_summarizes
  rw [hs.sortKey_eq kind] at hdistinct
  rw [hs.mayPrint_iff] at h
  rw [hs.run_eq]
  exact ofFilter_of_mayPrintFor hperm hdistinct h

/-- Where a text may be printed, one is. -/
theorem exists_run_of_mayPrint (h : MayPrint s kind objects text) : ∃ text', run s kind objects = .ok text' := by
  obtain ⟨α, _, _, hs⟩ := s.exists_summarizes
  obtain ⟨c, inv, -, hc, hinv, -, -⟩ := (hs.mayPrint_iff kind objects text).mp h
  exact ⟨print s (keep c inv), by rw [hs.run_eq, ofFilter_eq_print hc hinv]⟩

/-- The summary comes to one of the things that may come of it. -/
theorem mayEnd_run (s : Settings) (kind : Text) (objects : List Object) : MayEnd s kind objects (run s kind objects) := by
  cases hrun : run s kind objects with
  | ok text => exact mayPrint_of_run hrun
  | error e => exact hrun

/-- Nothing but the summary may come of objects when it is an error, or when no two of them have the same sort key. -/
theorem eq_run_of_mayEnd (hsingle : (∃ e, run s kind objects = .error e) ∨ (objects.map s.sortKey).Nodup)
    {outcome : Except RunError Text} (h : MayEnd s kind objects outcome) : outcome = run s kind objects := by
  cases outcome with
  | error e => exact h.symm
  | ok text =>
    rcases hsingle with ⟨e, he⟩ | hdistinct
    · obtain ⟨text', htext'⟩ := exists_run_of_mayPrint h
      rw [he] at htext'
      cases htext'
    · exact (run_of_mayPrint (.refl objects) hdistinct h).symm

end Summary

/-- Objects of which no two have the same sort key have one summary in every order, or none in any order; and it is the only text
that may be printed for them, whatever the order in which the resources are visited. -/
theorem run_eq_of_perm {s : Settings} {kind : Text} {objects objects' : List Object} (hperm : objects.Perm objects')
    (hdistinct : (objects.map s.sortKey).Nodup) :
    ((∃ e e', Summary.run s kind objects = .error e ∧ Summary.run s kind objects' = .error e') ∨
        ∃ text, Summary.run s kind objects = .ok text ∧ Summary.run s kind objects' = .ok text) ∧
      ∀ text, Summary.MayPrint s kind objects' text → Summary.run s kind objects = .ok text := by
  have hdistinct' : (objects'.map s.sortKey).Nodup := (hperm.map _).nodup_iff.mp hdistinct
  have hback : ∀ text, Summary.MayPrint s kind objects' text → Summary.run s kind objects = .ok text :=
    fun text h => Summary.run_of_mayPrint hperm.symm hdistinct' h
  refine ⟨?_, hback⟩
  cases hrun : Summary.run s kind objects with
  | ok text => exact Or.inr ⟨text, rfl, Summary.run_of_mayPrint hperm hdistinct (Summary.mayPrint_of_run hrun)⟩
  | error e =>
    cases hrun' : Summary.run s kind objects' with
    | error e' => exact Or.inl ⟨e, e', rfl, rfl⟩
    | ok text =>
      rw [hback text (Summary.mayPrint_of_run hrun')] at hrun
      cases hrun

/-- Two objects of a namespace, in both orders. -/
theorem run_eq_of_perm_two_objects :
    let s : Settings := ⟨.tolerations "apps/v1".toList "deployments".toList, some ⟨"key".toList, .unmatched⟩, none, none, none,
      .yaml, true, false⟩
    let web : Object := ⟨"prod".toList, "web".toList, .object []⟩
    let api : Object := ⟨"prod".toList, "api".toList, .object []⟩
    ((∃ e e', Summary.run s "Deployment".toList [web, api] = .error e ∧
          Summary.run s "Deployment".toList [api, web] = .error e') ∨
        ∃ text, Summary.run s "Deployment".toList [web, api] = .ok text ∧
          Summary.run s "Deployment".toList [api, web] = .ok text) ∧
      ∀ text, Summary.MayPrint s "Deployment".toList [api, web] text →
        Summary.run s "Deployment".toList [web, api] = .ok text :=
  run_eq_of_perm (.swap _ _ []) (by decide +kernel)

end TaintSummary
