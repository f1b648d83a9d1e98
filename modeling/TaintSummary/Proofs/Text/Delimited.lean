import TaintSummary.Text

/-!
# Texts that show where they end

What is written for values is delimited when two texts that begin with it are the same only if they begin with the same value and go
on in the same way. Whether this holds depends on what may follow. Lists of values are then delimited as well, when what may follow
the last value is no beginning of another one (`Delimited.flatMap`).
-/

namespace TaintSummary.Text

variable {α : Type}

/-- In front of texts of the class, what is written for a value shows the value and where it ends. -/
def Delimited (write : α → Text) (Ends : Text → Prop) : Prop :=
  ∀ ⦃a a' : α⦄ ⦃rest rest' : Text⦄, Ends rest → Ends rest' → write a ++ rest = write a' ++ rest' → a = a' ∧ rest = rest'

/-- What may stand behind a value stands behind it in a list, when it may be the next value or what comes after the list. -/
theorem ends_flatMap_append {write : α → Text} {Ends Stops : Text → Prop} (hends : ∀ rest, Stops rest → Ends rest)
    (hnext : ∀ a rest, Ends (write a ++ rest)) (as : List α) {rest : Text} (h : Stops rest) :
    Ends (as.flatMap write ++ rest) := by
  cases as with
  | nil => exact hends rest h
  | cons a as =>
    rw [List.flatMap_cons, List.append_assoc]
    exact hnext a _

/-- Lists of values are delimited where a list may stop, when one value may follow another and the list does not go on where it may
stop. -/
theorem Delimited.flatMap {write : α → Text} {Ends Stops : Text → Prop} (h : Delimited write Ends)
    (hends : ∀ rest, Stops rest → Ends rest) (hnext : ∀ a rest, Ends (write a ++ rest))
    (hstops : ∀ a rest, ¬Stops (write a ++ rest)) : Delimited (List.flatMap write) Stops := by
  intro as as' rest rest' hrest hrest' heq
  induction as generalizing as' with
  | nil =>
    cases as' with
    | nil => exact ⟨rfl, heq⟩
    | cons a' as' =>
      -- what follows the empty list would begin with a value
      rw [List.flatMap_nil, List.nil_append, List.flatMap_cons, List.append_assoc] at heq
      exact absurd (heq ▸ hrest) (hstops a' _)
  | cons a as ih =>
    cases as' with
    | nil =>
      rw [List.flatMap_nil, List.nil_append, List.flatMap_cons, List.append_assoc] at heq
      exact absurd (heq ▸ hrest') (hstops a _)
    | cons a' as' =>
      simp only [List.flatMap_cons, List.append_assoc] at heq
      obtain ⟨rfl, htail⟩ := h (ends_flatMap_append hends hnext as hrest) (ends_flatMap_append hends hnext as' hrest') heq
      obtain ⟨rfl, hrests⟩ := ih htail
      exact ⟨rfl, hrests⟩

end TaintSummary.Text
