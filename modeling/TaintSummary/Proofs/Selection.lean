import TaintSummary.Proofs.Order
import TaintSummary.Summary

/-!
# Selections

A scan goes by the order of a list and may end before its last element. What it comes to does not: a list is kept as a match when
the thing is in it, and otherwise when it is empty or ends with another thing (`Selection.keeps_iff_admits`). So filters one after
the other leave the entries that every one of them admits, in whatever order they come and however often (`filter_steps`).
-/

namespace TaintSummary

namespace Selection

variable {α : Type} [DecidableEq α]

/-- A list is admitted: as a match when the thing is one of its elements, and otherwise when it is empty or its last element is
another one. -/
def Admits (s : Selection) (thing : α) (items : List α) : Prop :=
  match s with
  | .matching => thing ∈ items
  | .unmatched => items = [] ∨ ∃ last, items.getLast? = some last ∧ last ≠ thing

omit [DecidableEq α] in
theorem admits_unmatched_iff {thing : α} {items : List α} :
    Selection.unmatched.Admits thing items ↔ items.getLast? ≠ some thing := by
  unfold Admits
  cases hlast : items.getLast? with
  | none => simp [List.getLast?_eq_none_iff.mp hlast]
  | some last =>
    have hne : items ≠ [] := by
      rintro rfl
      cases hlast
    simp [hne]

omit [DecidableEq α] in
/-- Whatever ends a list is in it, so that every list is admitted by one of the selections. -/
theorem admits_or_admits (thing : α) (items : List α) :
    Selection.matching.Admits thing items ∨ Selection.unmatched.Admits thing items := by
  rw [admits_unmatched_iff]
  by_cases hlast : items.getLast? = some thing
  · exact Or.inl (List.mem_of_getLast? hlast)
  · exact Or.inr hlast

/-- A scan for a match ends with a hit when the thing is in the list, or when there is no list to scan after a hit. -/
theorem scan_matching_iff {thing : α} {items : List α} {hit : Bool} :
    scan .matching thing hit items = true ↔ thing ∈ items ∨ (items = [] ∧ hit = true) := by
  induction items generalizing hit with
  | nil => simp [scan]
  | cons item rest ih =>
    unfold scan
    by_cases hitem : item = thing
    · simp [hitem]
    · have hmem : thing ∈ item :: rest ↔ thing ∈ rest := by simp [Ne.symm hitem]
      rw [if_neg fun h => hitem h.2, ih, hmem]
      simp [hitem]

/-- Any other scan ends as the comparison with the last element does. -/
theorem scan_unmatched (thing : α) (hit : Bool) (items : List α) :
    scan .unmatched thing hit items = (items.getLast?.map fun last => decide (last = thing)).getD hit := by
  induction items generalizing hit with
  | nil => rfl
  | cons item rest ih =>
    have hgoes : scan .unmatched thing hit (item :: rest) = scan .unmatched thing (item = thing) rest :=
      if_neg fun h => nomatch h.1
    rw [hgoes, ih, List.getLast?_cons]
    cases rest.getLast? <;> rfl

/-- The scan keeps the lists that are admitted. -/
theorem keeps_iff_admits {s : Selection} {thing : α} {items : List α} :
    s.keeps thing items = true ↔ s.Admits thing items := by
  cases s with
  | matching =>
    have hscan := @scan_matching_iff α _ thing items false
    simpa [keeps, Admits] using hscan
  | unmatched =>
    rw [admits_unmatched_iff, keeps, scan_unmatched]
    cases items.getLast? <;> simp

/-- An entry is left when its list is admitted. -/
theorem mem_apply_iff {s : Selection} {thing : α} {inv : Inventory α} {e : Resource × List α} :
    e ∈ (s.apply thing inv).entries ↔ e ∈ inv.entries ∧ s.Admits thing e.2 := by
  rw [← keeps_iff_admits]
  exact List.mem_filter

end Selection

/-- A step of a run of filters: which resources are kept, and what they are compared with, a thing or an expression for one. -/
inductive FilterStep (α : Type)
  | given (thing : α) (selection : Selection)
  | expression (filter : Filter)

namespace FilterStep

variable {α : Type} [Listed α] [DecidableEq α]

/-- The criterion of the step; the error of an expression that cannot be read. -/
def criterion : FilterStep α → Except RunError (Summary.Criterion α)
  | .given thing selection => .ok (some (thing, selection))
  | .expression filter => Summary.criterion α (some filter)

/-- The inventory after the step. An expression that cannot be read is passed over. -/
def apply (inv : Inventory α) (step : FilterStep α) : Inventory α :=
  match step.criterion with
  | .ok c => Summary.keep c inv
  | .error _ => inv

/-- The inventory after the steps, one after the other. -/
def run (inv : Inventory α) (steps : List (FilterStep α)) : Inventory α := steps.foldl apply inv

/-- The thing that the step compares resources with: the one given, or the one that its expression stands for. -/
inductive Compares : FilterStep α → α → Selection → Prop
  | given (thing : α) (selection : Selection) : Compares (.given thing selection) thing selection
  | expression {filter : Filter} {thing : α} (parsed : Listed.parse filter.expression = .ok thing) :
      Compares (.expression filter) thing filter.selection

/-- The list meets the condition of the step, if the step has one. -/
def Admits (step : FilterStep α) (items : List α) : Prop :=
  ∀ thing selection, step.Compares thing selection → selection.Admits thing items

/-- An expression that cannot be read changes nothing. -/
theorem apply_of_parse_error {filter : Filter} {e : SpecifierError}
    (h : (Listed.parse filter.expression : Except SpecifierError α) = .error e) (inv : Inventory α) :
    apply inv (.expression filter) = inv := by
  have hcriterion : (FilterStep.expression filter : FilterStep α).criterion =
      .error (.expression filter.expression e) := by
    rw [criterion, Summary.criterion, h]
    rfl
  rw [apply, hcriterion]

/-- A step leaves the entries that meet its condition. -/
theorem mem_apply_iff {inv : Inventory α} {step : FilterStep α} {e : Resource × List α} :
    e ∈ (apply inv step).entries ↔ e ∈ inv.entries ∧ step.Admits e.2 := by
  cases step with
  | given thing selection =>
    have hadmits : (FilterStep.given thing selection).Admits e.2 ↔ selection.Admits thing e.2 := by
      refine ⟨fun h => h thing selection (.given thing selection), fun h t s hcompares => ?_⟩
      cases hcompares
      exact h
    rw [hadmits]
    exact Selection.mem_apply_iff
  | expression filter =>
    cases hparse : (Listed.parse filter.expression : Except SpecifierError α) with
    | error err =>
      have hadmits : (FilterStep.expression filter : FilterStep α).Admits e.2 := by
        intro t s hcompares
        cases hcompares with
        | expression parsed =>
          rw [hparse] at parsed
          cases parsed
      rw [apply_of_parse_error hparse]
      exact (and_iff_left hadmits).symm
    | ok thing =>
      have hadmits : (FilterStep.expression filter : FilterStep α).Admits e.2 ↔ filter.selection.Admits thing e.2 := by
        refine ⟨fun h => h thing filter.selection (.expression hparse), fun h t s hcompares => ?_⟩
        cases hcompares with
        | expression parsed =>
          rw [hparse] at parsed
          cases parsed
          exact h
      have happly : apply inv (.expression filter) = filter.selection.apply thing inv := by
        rw [apply, criterion, Summary.criterion, hparse]
        rfl
      rw [hadmits, happly]
      exact Selection.mem_apply_iff

/-- A run leaves the entries that meet the condition of every step. -/
theorem mem_run_iff {inv : Inventory α} {steps : List (FilterStep α)} {e : Resource × List α} :
    e ∈ (run inv steps).entries ↔ e ∈ inv.entries ∧ ∀ step ∈ steps, step.Admits e.2 := by
  induction steps generalizing inv with
  | nil => simp [run]
  | cons step steps ih =>
    have hrun : run inv (step :: steps) = run (apply inv step) steps := rfl
    rw [hrun, ih, mem_apply_iff, List.forall_mem_cons, and_assoc]

end FilterStep

/-- A run of filter steps leaves exactly the entries that meet the condition of every step that can be read, with their whole lists.
A step that cannot be read changes nothing, and runs with the same steps, whatever their order and number, leave the same. -/
theorem filter_steps {α : Type} [Listed α] [DecidableEq α] (inv : Inventory α) (steps : List (FilterStep α)) :
    (∀ resource items, (resource, items) ∈ (FilterStep.run inv steps).entries ↔
        (resource, items) ∈ inv.entries ∧
          ∀ step ∈ steps, ∀ thing selection, step.Compares thing selection → selection.Admits thing items) ∧
      (∀ filter e, (Listed.parse filter.expression : Except SpecifierError α) = .error e →
        FilterStep.apply inv (.expression filter) = inv) ∧
      ∀ steps' : List (FilterStep α), (∀ step, step ∈ steps' ↔ step ∈ steps) →
        FilterStep.run inv steps' = FilterStep.run inv steps := by
  refine ⟨fun resource items => FilterStep.mem_run_iff, fun filter e h => FilterStep.apply_of_parse_error h inv, ?_⟩
  intro steps' hsame
  refine SortedMap.eq_of_mem_iff fun e => ?_
  rw [FilterStep.mem_run_iff, FilterStep.mem_run_iff]
  simp only [hsame]

/-- A step that cannot be read, once more before the others. -/
theorem filter_steps_reordered :
    let inv : Inventory Taint := SortedMap.ofList [(⟨[], "db".toList, "Node".toList⟩, [⟨"ssd".toList, [], none⟩]),
      (⟨[], "web".toList, "Node".toList⟩, [])]
    let ssd : FilterStep Taint := .expression ⟨"ssd".toList, .matching⟩
    let unreadable : FilterStep Taint := .expression ⟨"ssd:Never".toList, .unmatched⟩
    FilterStep.apply inv unreadable = inv ∧
      FilterStep.run inv [unreadable, ssd, unreadable] = FilterStep.run inv [ssd, unreadable] := by
  intro inv ssd unreadable
  obtain ⟨-, hpassed, hsame⟩ := filter_steps inv [ssd, unreadable]
  exact ⟨hpassed ⟨"ssd:Never".toList, .unmatched⟩ (.invalidEffect "Never".toList) rfl, hsame _ (by simp [or_comm])⟩

end TaintSummary
