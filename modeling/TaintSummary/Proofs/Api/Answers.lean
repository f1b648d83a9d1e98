import TaintSummary.Api.Listing

/-!
# Answers to the requests of a listing

An answer is a page, a failure that may pass, or neither of them. Whether a failure may pass is decided by its effective code
(`Response.isRetryable_iff`); the answer after the end of a script is a failure that does not
(`Response.not_isRetryable_exhausted`).
-/

namespace TaintSummary.Api

/-- The answer to the request after so many others: what the script says, and after its end always the same. -/
def answerAt (script : List Response) (i : Nat) : Response := script[i]?.getD .exhausted

namespace Response

/-- The code of a failing answer: the one that its body states, where it describes a failure, and otherwise its status. -/
def effectiveCode (r : Response) : Nat :=
  match (Failure.shape.parse r.body).bind Failure.ofJson? with
  | some f => f.code
  | none => r.status

/-- The answer tells of a failure that may pass. -/
def IsRetryable (r : Response) : Prop := r.isFailure = true ∧ r.effectiveCode ∈ [429, 503, 504]

instance (r : Response) : Decidable r.IsRetryable := inferInstanceAs (Decidable (_ ∧ _))

/-- What the answer is as a page. -/
def page (r : Response) : Except RequestError Page := r.read Page.shape Page.ofJson?

/-- The objects of the answer; none when it is no page. -/
def objects (r : Response) : List Object :=
  match r.page with
  | .ok page => page.objects
  | .error _ => []

/-- The code of a failure is the one that counts of the answer. -/
theorem code_ofResponse (r : Response) : (Failure.ofResponse r).code = r.effectiveCode := by
  unfold Failure.ofResponse effectiveCode
  cases (Failure.shape.parse r.body).bind Failure.ofJson? <;> rfl

/-- A request may be made once more exactly when its answer tells of a failure that may pass. -/
theorem isRetryable_iff {r : Response} {e : RequestError} (h : r.page = .error e) :
    e.isRetryable = true ↔ r.IsRetryable := by
  unfold page read at h
  split at h
  · next hf =>
    cases h
    simp [RequestError.isRetryable, Failure.isRetryable, IsRetryable, code_ofResponse, hf, or_assoc]
  · next hf =>
    split at h
    · cases h
    · cases h
      simp [RequestError.isRetryable, IsRetryable, hf]

/-- A failure is no page. -/
theorem page_of_isFailure {r : Response} (h : r.isFailure = true) : r.page = .error (.failure (.ofResponse r)) :=
  if_pos h

/-- A page is no failure. -/
theorem not_isRetryable_of_page {r : Response} {page : Page} (h : r.page = .ok page) : ¬r.IsRetryable := by
  intro hr
  rw [page_of_isFailure hr.1] at h
  cases h

theorem page_exhausted : exhausted.page = .error (.failure (.ofResponse .exhausted)) := page_of_isFailure rfl

/-- The failure that a server without further answers tells of does not pass. -/
theorem not_isRetryable_exhausted : ¬exhausted.IsRetryable := by decide +kernel

end Response

end TaintSummary.Api
