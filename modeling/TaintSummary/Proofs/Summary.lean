import TaintSummary.Proofs.Results
import TaintSummary.Summary

/-!
# Objects that have a summary

Once the expression of the filter is read, objects have a summary exactly when the list of each of them can be read
(`Summary.run_ok_iff`), and otherwise the error is that of the first object whose list cannot (`Summary.run_eq_error`). What holds
for both commands is shown for any type of lists that a command may summarize (`Settings.Summarizes`).
-/

namespace TaintSummary

/-- The error of a result, if it is one. -/
def error? {ε α : Type} : Except ε α → Option ε
  | .ok _ => none
  | .error e => some e

theorem error?_eq_some_iff {ε α : Type} {x : Except ε α} {e : ε} : error? x = some e ↔ x = .error e := by
  cases x <;> simp [error?]

theorem error?_eq_none_iff {ε α : Type} {x : Except ε α} : error? x = none ↔ ∃ a, x = .ok a := by
  cases x <;> simp [error?]

namespace Settings

/-- Why the list that the settings speak of cannot be read from an object; `none` when it can. -/
def refusal? (s : Settings) (o : Object) : Option EntryError :=
  match s.command with
  | .taints => error? (Listed.extract o.body : Except EntryError (List Taint))
  | .tolerations .. => error? (Listed.extract o.body : Except EntryError (List Toleration))

/-- The expression of the filter, if there is one, is a specifier of what the command summarizes. -/
def HasCriterion (s : Settings) : Prop :=
  match s.command with
  | .taints => ∃ c, Summary.criterion Taint s.filter = .ok c
  | .tolerations .. => ∃ c, Summary.criterion Toleration s.filter = .ok c

/-- The command summarizes lists of things of the type. -/
inductive Summarizes (s : Settings) : (α : Type) → Listed α → DecidableEq α → Prop
  | taints (command : s.command = .taints) : Summarizes s Taint inferInstance inferInstance
  | tolerations {apiVersion name : Text} (command : s.command = .tolerations apiVersion name) :
      Summarizes s Toleration inferInstance inferInstance

/-- Every command summarizes lists of some type. -/
theorem exists_summarizes (s : Settings) :
    ∃ (α : Type) (listed : Listed α) (decEq : DecidableEq α), s.Summarizes α listed decEq := by
  cases command : s.command with
  | taints => exact ⟨Taint, _, _, .taints command⟩
  | tolerations apiVersion name => exact ⟨Toleration, _, _, .tolerations command⟩

namespace Summarizes

variable {s : Settings} {α : Type} [listed : Listed α] [decEq : DecidableEq α] (h : s.Summarizes α listed decEq)
include h

/-- The summary is the one for lists of that type. -/
theorem run_eq (kind : Text) (objects : List Object) :
    Summary.run s kind objects = Summary.ofFilter α s kind objects := by
  cases h with
  | taints command => simp only [Summary.run, command]
  | tolerations command => simp only [Summary.run, command]

/-- The list of an object is refused for the reason for which a list of that type is. -/
theorem refusal?_eq (o : Object) : s.refusal? o = error? (Listed.extract o.body : Except EntryError (List α)) := by
  cases h with
  | taints command => simp only [refusal?, command]
  | tolerations command => simp only [refusal?, command]

/-- The expression of the filter is read as a thing of that type. -/
theorem hasCriterion_iff : s.HasCriterion ↔ ∃ c, Summary.criterion α s.filter = .ok c := by
  cases h with
  | taints command => simp only [HasCriterion, command]
  | tolerations command => simp only [HasCriterion, command]

end Summarizes

end Settings

namespace Inventory

variable {α : Type} [Listed α] {kind : Text} {objects : List Object}

/-- An object is read as its resource and its list. -/
theorem readObject_eq_ok_iff {o : Object} {r : Resource} {items : List α} :
    readObject kind o = .ok (r, items) ↔ o.resource kind = r ∧ Listed.extract o.body = .ok items := by
  unfold readObject
  cases (Listed.extract o.body : Except EntryError (List α)) <;> simp

/-- An object whose list cannot be read is named with its kind and the reason. -/
theorem readObject_eq_error_iff {o : Object} {u : Unreadable} :
    (readObject kind o : Except Unreadable (Resource × List α)) = .error u ↔
      ∃ cause, (Listed.extract o.body : Except EntryError (List α)) = .error cause ∧ u = ⟨kind, o.name, cause⟩ := by
  unfold readObject
  cases (Listed.extract o.body : Except EntryError (List α)) <;> simp [eq_comm]

/-- An object is read when its list is. -/
theorem exists_readObject_iff {o : Object} :
    (∃ entry : Resource × List α, readObject kind o = .ok entry) ↔ ∃ items : List α, Listed.extract o.body = .ok items := by
  simp [Prod.exists, readObject_eq_ok_iff]

/-- An inventory is made of what is read of the objects, put in one after the other. -/
theorem ofObjects_eq_ok_iff {inv : Inventory α} :
    ofObjects kind objects = .ok inv ↔ ∃ es, objects.mapM (readObject kind) = .ok es ∧ SortedMap.ofList es = inv :=
  map_eq_ok_iff

/-- Objects have an inventory exactly when their lists can be read. -/
theorem exists_ofObjects_iff :
    (∃ inv : Inventory α, ofObjects kind objects = .ok inv) ↔
      ∀ o ∈ objects, ∃ items : List α, Listed.extract o.body = .ok items := by
  have hread := @mapM_ok_iff _ _ _ (@readObject α _ kind) objects
  simp only [exists_readObject_iff] at hread
  simp only [← hread, ofObjects_eq_ok_iff]
  constructor
  · rintro ⟨inv, es, hes, -⟩
    exact ⟨es, hes⟩
  · rintro ⟨es, hes⟩
    exact ⟨_, es, hes, rfl⟩

/-- Otherwise the first list that cannot be read is the error. -/
theorem ofObjects_eq_error {before after : List Object} {o : Object} {cause : EntryError}
    (hbefore : ∀ b ∈ before, ∃ items : List α, Listed.extract b.body = .ok items)
    (hcause : (Listed.extract o.body : Except EntryError (List α)) = .error cause) :
    (ofObjects kind (before ++ o :: after) : Except Unreadable (Inventory α)) = .error ⟨kind, o.name, cause⟩ := by
  have hread : (before ++ o :: after).mapM (@readObject α _ kind) = .error ⟨kind, o.name, cause⟩ :=
    mapM_eq_error_iff.mpr ⟨before, o, after, rfl, fun b hb => exists_readObject_iff.mpr (hbefore b hb),
      readObject_eq_error_iff.mpr ⟨cause, hcause, rfl⟩⟩
  rw [ofObjects, hread]
  rfl

end Inventory

namespace Summary

variable {α : Type} [Listed α] [DecidableEq α] {s : Settings} {c : Criterion α} {kind : Text} {objects : List Object}

/-- Where the filter's expression and the objects can be read, the kept part of their inventory is printed. -/
theorem ofFilter_eq_print {inv : Inventory α} (hc : criterion α s.filter = .ok c)
    (hinv : Inventory.ofObjects kind objects = .ok inv) : ofFilter α s kind objects = .ok (print s (keep c inv)) := by
  rw [ofFilter, hc]
  unfold Except.bind ofObjects
  rw [hinv]
  rfl

/-- Objects have a summary exactly when their lists can be read. -/
theorem ofFilter_ok_iff (hfilter : criterion α s.filter = .ok c) :
    (∃ text, ofFilter α s kind objects = .ok text) ↔
      ∀ o ∈ objects, error? (Listed.extract o.body : Except EntryError (List α)) = none := by
  simp only [error?_eq_none_iff, ← @Inventory.exists_ofObjects_iff α _ kind]
  rw [ofFilter, hfilter]
  unfold Except.bind ofObjects
  cases (Inventory.ofObjects kind objects : Except Unreadable (Inventory α)) <;> simp [Except.map]

/-- Otherwise the first list that cannot be read is the error. -/
theorem ofFilter_eq_error (hfilter : criterion α s.filter = .ok c) {before after : List Object} {o : Object}
    {cause : EntryError} (hobjects : objects = before ++ o :: after)
    (hbefore : ∀ b ∈ before, error? (Listed.extract b.body : Except EntryError (List α)) = none)
    (hcause : error? (Listed.extract o.body : Except EntryError (List α)) = some cause) :
    ofFilter α s kind objects = .error (.unreadable ⟨kind, o.name, cause⟩) := by
  subst hobjects
  rw [ofFilter, hfilter]
  unfold Except.bind ofObjects
  rw [Inventory.ofObjects_eq_error (fun b hb => error?_eq_none_iff.mp (hbefore b hb)) (error?_eq_some_iff.mp hcause)]
  rfl

/-- A summary is not empty: it ends with a line break. -/
theorem ofFilter_ne_nil {text : Text} (h : ofFilter α s kind objects = .ok text) : text ≠ [] := by
  obtain ⟨c, -, hobjects⟩ := bind_eq_ok_iff.mp h
  obtain ⟨inv, -, rfl⟩ := map_eq_ok_iff.mp hobjects
  simp [print]

/-- Objects have a summary exactly when the list of each of them can be read. -/
theorem run_ok_iff (h : s.HasCriterion) :
    (∃ text, run s kind objects = .ok text) ↔ ∀ o ∈ objects, s.refusal? o = none := by
  obtain ⟨α, _, _, hs⟩ := s.exists_summarizes
  obtain ⟨c, hc⟩ := hs.hasCriterion_iff.mp h
  simp only [hs.run_eq, hs.refusal?_eq]
  exact ofFilter_ok_iff hc

/-- Otherwise the error is that of the first object whose list cannot be read. -/
theorem run_eq_error (h : s.HasCriterion) {before after : List Object} {o : Object} {cause : EntryError}
    (hobjects : objects = before ++ o :: after) (hbefore : ∀ b ∈ before, s.refusal? b = none)
    (hcause : s.refusal? o = some cause) : run s kind objects = .error (.unreadable ⟨kind, o.name, cause⟩) := by
  obtain ⟨α, _, _, hs⟩ := s.exists_summarizes
  obtain ⟨c, hc⟩ := hs.hasCriterion_iff.mp h
  simp only [hs.refusal?_eq] at hbefore hcause
  rw [hs.run_eq]
  exact ofFilter_eq_error hc hobjects hbefore hcause

/-- A summary that is printed is not empty. -/
theorem run_ne_nil {text : Text} (h : run s kind objects = .ok text) : text ≠ [] := by
  obtain ⟨α, _, _, hs⟩ := s.exists_summarizes
  rw [hs.run_eq] at h
  exact ofFilter_ne_nil h

end Summary

end TaintSummary
