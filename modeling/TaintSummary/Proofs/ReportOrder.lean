import Mathlib.Data.List.Nodup
import TaintSummary.Proofs.Inventory
import TaintSummary.Proofs.Selection
import TaintSummary.Proofs.Text.ByteOrder

/-!
# The order of the rows

A sort alone leaves rows with equal labels next to each other. There are none in the report of an inventory of objects: its
resources differ and are all of one kind, which filters leave so (`exists_object_of_mem_run`), and so their namespaces and names
differ. A report of taints shows the names only, which differ when no name is in use in two namespaces
(`reports_strictly_increase`).
-/

namespace TaintSummary

section Entries

variable {α : Type} [Listed α] [DecidableEq α] {kind : Text} {objects : List Object} {inv : Inventory α}

/-- Every resource that filters leave is that of an object. -/
theorem exists_object_of_mem_run (hinv : Inventory.ofObjects kind objects = .ok inv) {steps : List (FilterStep α)}
    {e : Resource × List α} (he : e ∈ (FilterStep.run inv steps).entries) : ∃ o ∈ objects, o.resource kind = e.1 := by
  obtain ⟨es, hes, rfl⟩ := Inventory.ofObjects_eq_ok_iff.mp hinv
  have hkey : e.1 ∈ (SortedMap.ofList es).keys := List.mem_map_of_mem (FilterStep.mem_run_iff.mp he).1
  exact ((Inventory.holdsLast_of_mapM hes).keys e.1).mp hkey

/-- What is shown of the resources after filters increases, once it is sorted, when it tells the resources of the objects apart. -/
theorem labels_run_increase (hinv : Inventory.ofObjects kind objects = .ok inv)
    (happart : ∀ o ∈ objects, ∀ o' ∈ objects,
      Listed.labels α (o.resource kind) = Listed.labels α (o'.resource kind) → o.resource kind = o'.resource kind)
    (steps : List (FilterStep α)) :
    (sortBy (fun e => Listed.labels α e.1) (FilterStep.run inv steps).entries).Pairwise fun e e' =>
      compare (Listed.labels α e.1) (Listed.labels α e'.1) = .lt := by
  refine sortBy_increasing ?_
  have hkeys : ((FilterStep.run inv steps).entries.map Prod.fst).Nodup := SortedMap.nodup_keys _
  have hlabels : (((FilterStep.run inv steps).entries.map Prod.fst).map (Listed.labels α)).Nodup := by
    refine hkeys.map_on fun r hr r' hr' heq => ?_
    obtain ⟨e, he, rfl⟩ := List.mem_map.mp hr
    obtain ⟨e', he', rfl⟩ := List.mem_map.mp hr'
    obtain ⟨o, ho, hresource⟩ := exists_object_of_mem_run hinv he
    obtain ⟨o', ho', hresource'⟩ := exists_object_of_mem_run hinv he'
    rw [← hresource, ← hresource'] at heq ⊢
    exact happart o ho o' ho' heq
  rwa [List.map_map] at hlabels

end Entries

/-- One list of texts comes before another: the first text decides, and then the others. -/
theorem compare_cons_eq_lt_iff {s t : Text} {ss ts : List Text} :
    compare (s :: ss) (t :: ts) = .lt ↔ s.utf8 < t.utf8 ∨ s = t ∧ compare ss ts = .lt := by
  rw [List.compare_eq_compareLex, List.compareLex_cons_cons, Ordering.then_eq_lt, Text.compare_eq_lt_iff,
    Std.LawfulEqOrd.compare_eq_iff_eq]

theorem compare_singleton_eq_lt_iff {s t : Text} : compare [s] [t] = .lt ↔ s.utf8 < t.utf8 := by
  rw [compare_cons_eq_lt_iff]
  exact or_iff_left fun h => nomatch h.2

/-- A report has one row for each resource of an inventory, and the rows are those of the entries in this order. -/
structure Report.Tabulates {α : Type} (r : Report) (inv : Inventory α) (row : Resource → List α → List Text)
    (entries : List (Resource × List α)) : Prop where
  perm : entries.Perm inv.entries
  distinct : (entries.map Prod.fst).Nodup
  rows : r.rows = entries.map fun e => row e.1 e.2

/-- The entries of an inventory in the order of its report. -/
theorem Report.tabulates_ofInventory {α : Type} [Listed α] (inv : Inventory α) :
    (ofInventory inv).Tabulates inv (fun r items => Listed.labels α r ++ [Listed.printList items])
      (sortBy (fun e => Listed.labels α e.1) inv.entries) := by
  have hperm := sortBy_perm (fun e => Listed.labels α e.1) inv.entries
  exact ⟨hperm, (hperm.map Prod.fst).nodup_iff.mpr (SortedMap.nodup_keys inv), rfl⟩

/-- The report of objects of a kind has one row for each resource after any filters. Its rows strictly increase in the bytes of
what they show, the namespace and the name for tolerations, and for taints the name, when no two namespaces have a name in common. -/
theorem reports_strictly_increase (kind : Text) (objects : List Object) :
    (∀ inv : Inventory Toleration, Inventory.ofObjects kind objects = .ok inv → ∀ steps : List (FilterStep Toleration),
        ∃ entries, (Report.ofInventory (FilterStep.run inv steps)).Tabulates (FilterStep.run inv steps)
            (fun r tolerations => [r.ns, r.name, Listed.printList tolerations]) entries ∧
          entries.Pairwise fun e e' => e.1.ns.utf8 < e'.1.ns.utf8 ∨ e.1.ns = e'.1.ns ∧ e.1.name.utf8 < e'.1.name.utf8) ∧
      ∀ inv : Inventory Taint, Inventory.ofObjects kind objects = .ok inv → ∀ steps : List (FilterStep Taint),
        ∃ entries, (Report.ofInventory (FilterStep.run inv steps)).Tabulates (FilterStep.run inv steps)
            (fun r taints => [r.name, Listed.printList taints]) entries ∧
          ((∀ o ∈ objects, ∀ o' ∈ objects, o.name = o'.name → o.ns = o'.ns) →
            entries.Pairwise fun e e' => e.1.name.utf8 < e'.1.name.utf8) := by
  constructor
  · intro inv hinv steps
    refine ⟨_, Report.tabulates_ofInventory _, (labels_run_increase hinv ?_ steps).imp fun {e e'} hlt => ?_⟩
    · intro o _ o' _ heq
      simpa [Listed.labels, Object.resource] using heq
    · exact (compare_cons_eq_lt_iff.mp hlt).imp_right (And.imp_right compare_singleton_eq_lt_iff.mp)
  · intro inv hinv steps
    refine ⟨_, Report.tabulates_ofInventory _, fun hnames => (labels_run_increase hinv ?_ steps).imp fun {e e'} hlt => ?_⟩
    · intro o ho o' ho' heq
      have hname : o.name = o'.name := List.head_eq_of_cons_eq heq
      simp [Object.resource, hname, hnames o ho o' ho' hname]
    · exact compare_singleton_eq_lt_iff.mp hlt

/-- Two deployments that are one resource, with one of the same name in another namespace, after a filter; and two nodes that are one
resource, with another node. -/
theorem reports_strictly_increase_duplicates :
    let deployment (ns : Text) : Object := ⟨ns, "db".toList, .object []⟩
    let deployments : List Object := [deployment "prod".toList, deployment "dev".toList, deployment "prod".toList]
    let ssd : Toleration := ⟨.exists, "ssd".toList, [], none⟩
    let nodes : List Object := [deployment [], deployment [], ⟨[], "app".toList, .object []⟩]
    (∃ inv : Inventory Toleration, Inventory.ofObjects "Deployment".toList deployments = .ok inv ∧ ∃ entries,
        (Report.ofInventory (FilterStep.run inv [.given ssd .unmatched])).Tabulates (FilterStep.run inv [.given ssd .unmatched])
            (fun r tolerations => [r.ns, r.name, Listed.printList tolerations]) entries ∧
          entries.Pairwise fun e e' => e.1.ns.utf8 < e'.1.ns.utf8 ∨ e.1.ns = e'.1.ns ∧ e.1.name.utf8 < e'.1.name.utf8) ∧
      ∃ inv : Inventory Taint, Inventory.ofObjects "Node".toList nodes = .ok inv ∧ ∃ entries,
        (Report.ofInventory (FilterStep.run inv [])).Tabulates (FilterStep.run inv [])
            (fun r taints => [r.name, Listed.printList taints]) entries ∧
          entries.Pairwise fun e e' => e.1.name.utf8 < e'.1.name.utf8 := by
  intro deployment deployments ssd nodes
  refine ⟨⟨_, rfl, (reports_strictly_increase "Deployment".toList deployments).1 _ rfl _⟩, _, rfl, ?_⟩
  obtain ⟨entries, htabulates, hincrease⟩ := (reports_strictly_increase "Node".toList nodes).2 _ rfl []
  exact ⟨entries, htabulates, hincrease (by simp [nodes, deployment])⟩

end TaintSummary
