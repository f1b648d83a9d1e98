import TaintSummary.SpecifierError

/-!
# Effects and operators

The effect a taint has on scheduling, and how a toleration compares with a taint. Names are matched exactly; reading the name
of an effect gives the effect back (`ofName_name`).
-/

namespace TaintSummary

/-- What a taint does to pods that do not tolerate it. -/
inductive Effect
  | noSchedule
  | preferNoSchedule
  | noExecute
  deriving DecidableEq

namespace Effect

/-- The name of the effect. -/
def name : Effect → Text
  | .noSchedule => "NoSchedule".toList
  | .preferNoSchedule => "PreferNoSchedule".toList
  | .noExecute => "NoExecute".toList

/-- Every effect. -/
def all : List Effect := [.noSchedule, .preferNoSchedule, .noExecute]

/-- The effect with the name. -/
def ofName (text : Text) : Except SpecifierError Effect :=
  match all.find? fun e => e.name = text with
  | some e => .ok e
  | none => .error (.invalidEffect text)

/-- The effect of a field that may be left empty. -/
def ofField (text : Text) : Except SpecifierError (Option Effect) :=
  if text = [] then .ok none else (ofName text).map some

/-- An effect is read from its name. -/
theorem ofName_name (e : Effect) : ofName e.name = .ok e := by
  cases e <;> rfl

/-- Exactly the names of effects are read. -/
theorem ofName_eq_ok_iff {text : Text} {e : Effect} : ofName text = .ok e ↔ text = e.name := by
  refine ⟨fun h => ?_, fun h => h ▸ ofName_name e⟩
  unfold ofName at h
  split at h
  · next f hf =>
    have := List.find?_some hf
    simp only [decide_eq_true_eq] at this
    injection h with h
    rw [← h, this]
  · simp at h

/-- A text that names no effect is reported as it stands. -/
theorem ofName_eq_error_iff {text : Text} {err : SpecifierError} :
    ofName text = .error err ↔ err = .invalidEffect text ∧ ∀ e : Effect, text ≠ e.name := by
  constructor
  · intro h
    refine ⟨?_, fun e he => ?_⟩
    · unfold ofName at h
      split at h
      · simp at h
      · injection h with h; exact h.symm
    · rw [ofName_eq_ok_iff.mpr he] at h
      simp at h
  · rintro ⟨rfl, h⟩
    match hr : ofName text with
    | .ok e => exact absurd (ofName_eq_ok_iff.mp hr) (h e)
    | .error err =>
      unfold ofName at hr
      split at hr
      · simp at hr
      · injection hr with hr; rw [hr]

end Effect

/-- How a toleration compares with a taint. -/
inductive Operator
  | equal
  | exists
  deriving DecidableEq

namespace Operator

/-- The name of the operator. -/
def name : Operator → Text
  | .equal => "Equal".toList
  | .exists => "Exists".toList

/-- The operator of a field that may be left empty, which means `equal`. -/
def ofField (text : Text) : Except SpecifierError Operator :=
  if text = [] ∨ text = Operator.equal.name then .ok .equal
  else if text = Operator.exists.name then .ok .exists
  else .error (.invalidOperator text)

end Operator

end TaintSummary
