import TaintSummary.Proofs.Api.Answers
import TaintSummary.Proofs.Api.FormEncoding
import TaintSummary.Proofs.Api.Target

/-!
# The requests of a listing and their answers

A listing goes from attempt to attempt: an attempt is at a page, known by its token, and so many attempts at that page have failed
before. `Listing.turns` is the list of the attempts that become requests, each with its answer. `turns_succ` says which attempt
follows which, and the requests, the waits and the result of `Listing.fetchFrom` are read off the turns (`fetchFrom_requests`,
`fetchFrom_sleptMs`, `fetchFrom_result`).
-/

namespace TaintSummary.Api

/-- An attempt at a page: the one with the token, at which so many attempts have failed. -/
structure Attempt where
  token : Text
  failures : Nat

namespace Listing

variable (l : Listing)

/-! ## Steps -/

/-- The attempt after an answer; `none` when the listing is at its end. -/
def next? (a : Attempt) (r : Response) : Option Attempt :=
  match l.step a.failures r with
  | .take page => if page.token = [] then none else some ⟨page.token, 0⟩
  | .again => some ⟨a.token, a.failures + 1⟩
  | .stop _ => none

/-- A page is taken. -/
theorem step_of_page {r : Response} {page : Page} (failures : Nat) (h : r.page = .ok page) :
    l.step failures r = .take page := by
  have h' : r.read Page.shape Page.ofJson? = .ok page := h
  rw [step, h']

/-- A failure that may pass is tried again, or is given up when the attempts are used up. -/
theorem step_of_isRetryable {r : Response} {e : RequestError} {failures : Nat} (h : r.page = .error e)
    (hr : r.IsRetryable) :
    l.step failures r =
      if failures + 1 < attemptLimit then .again else .stop (.retriesExhausted l.plural e) := by
  have h' : r.read Page.shape Page.ofJson? = .error e := h
  rw [step, h']
  exact if_pos ((Response.isRetryable_iff h).mpr hr)

/-- Any other failure ends the listing. -/
theorem step_of_not_isRetryable {r : Response} {e : RequestError} (failures : Nat) (h : r.page = .error e)
    (hr : ¬r.IsRetryable) : l.step failures r = .stop (.refused l.plural e) := by
  have h' : r.read Page.shape Page.ofJson? = .error e := h
  rw [step, h']
  exact if_neg fun he => hr ((Response.isRetryable_iff h).mp he)

/-- A page with a token is followed by the first attempt at the page of the token. -/
theorem next?_of_page {a : Attempt} {r : Response} {page : Page} (h : r.page = .ok page) :
    l.next? a r = if page.token = [] then none else some ⟨page.token, 0⟩ := by
  rw [next?, step_of_page l _ h]

/-- A failure that may pass is followed by another attempt at the same page, unless it is the third. -/
theorem next?_of_isRetryable {a : Attempt} {r : Response} (hr : r.IsRetryable) :
    l.next? a r = if a.failures + 1 < attemptLimit then some ⟨a.token, a.failures + 1⟩ else none := by
  rw [next?, step_of_isRetryable l (Response.page_of_isFailure hr.1) hr]
  by_cases h : a.failures + 1 < attemptLimit <;> simp [h]

/-- Any other failure ends the listing. -/
theorem next?_of_not_isRetryable {a : Attempt} {r : Response} {e : RequestError} (h : r.page = .error e)
    (hr : ¬r.IsRetryable) : l.next? a r = none := by
  rw [next?, step_of_not_isRetryable l _ h hr]

/-- A failure that may pass adds to the failures at a page, and a page starts them anew. -/
theorem next?_failures {a b : Attempt} {r : Response} (h : l.next? a r = some b) :
    b.failures = if r.IsRetryable then a.failures + 1 else 0 := by
  cases hpage : r.page with
  | ok page =>
    rw [next?_of_page l hpage] at h
    rw [if_neg (Response.not_isRetryable_of_page hpage)]
    split at h
    · simp at h
    · cases h; rfl
  | error e =>
    by_cases hr : r.IsRetryable
    · rw [next?_of_isRetryable l hr] at h
      rw [if_pos hr]
      split at h
      · cases h; rfl
      · simp at h
    · rw [next?_of_not_isRetryable l hpage hr] at h
      simp at h

/-! ## Turns -/

/-- The attempts that become requests, each with its answer. An attempt whose target is too long becomes none. -/
def turns : List Response → Attempt → List (Attempt × Response)
  | [], a => if Target.Fits (l.target a.token) then [(a, .exhausted)] else []
  | r :: script, a =>
    if Target.Fits (l.target a.token) then
      (a, r) ::
        match l.next? a r with
        | some b => turns script b
        | none => []
    else []

/-- After the end of a script there is one more answer: that the script is exhausted. -/
theorem turns_nil (a : Attempt) : l.turns [] a = l.turns [.exhausted] a := by
  rw [turns, turns, next?_of_not_isRetryable l Response.page_exhausted Response.not_isRetryable_exhausted]

/-- A request that is too long is never sent, so that there is no turn. -/
theorem turns_of_not_fits {script : List Response} {a : Attempt} (h : ¬Target.Fits (l.target a.token)) :
    l.turns script a = [] := by
  cases script <;> exact if_neg h

/-- An answer after which there is no attempt ends the turns. -/
theorem turns_last {r : Response} {script : List Response} {a : Attempt} (h : Target.Fits (l.target a.token))
    (hn : l.next? a r = none) : l.turns (r :: script) a = [(a, r)] := by
  rw [turns, if_pos h, hn]

/-- An answer after which there is an attempt is followed by the turns of this attempt. -/
theorem turns_step {r : Response} {script : List Response} {a b : Attempt} (h : Target.Fits (l.target a.token))
    (hn : l.next? a r = some b) : l.turns (r :: script) a = (a, r) :: l.turns script b := by
  rw [turns, if_pos h, hn]

/-- Induction along a listing: an attempt becomes no request, is the last one, or is followed by another one. A script that is at
its end goes on with the last answer of all. -/
theorem turns_induct {motive : List Response → Attempt → Prop}
    (nil : ∀ a, motive [.exhausted] a → motive [] a)
    (short : ∀ script a, ¬Target.Fits (l.target a.token) → motive script a)
    (last : ∀ r script a, Target.Fits (l.target a.token) → l.next? a r = none → motive (r :: script) a)
    (step : ∀ r script a b, Target.Fits (l.target a.token) → l.next? a r = some b → motive script b →
      motive (r :: script) a)
    (script : List Response) (a : Attempt) : motive script a := by
  induction script generalizing a with
  | nil =>
    apply nil
    by_cases h : Target.Fits (l.target a.token)
    · exact last _ _ _ h (next?_of_not_isRetryable l Response.page_exhausted Response.not_isRetryable_exhausted)
    · exact short _ _ h
  | cons r script ih =>
    by_cases h : Target.Fits (l.target a.token)
    · cases hn : l.next? a r with
      | none => exact last r script a h hn
      | some b => exact step r script a b h hn (ih b)
    · exact short _ _ h

/-- The first turn is the first attempt, if it becomes a request. -/
theorem turns_zero (script : List Response) (a : Attempt) :
    (l.turns script a)[0]? = if Target.Fits (l.target a.token) then some (a, answerAt script 0) else none := by
  cases script with
  | nil => unfold turns; split <;> rfl
  | cons r script => unfold turns; split <;> rfl

/-- There is no turn only when the first request is too long. -/
theorem turns_eq_nil_iff {script : List Response} {a : Attempt} :
    l.turns script a = [] ↔ ¬Target.Fits (l.target a.token) := by
  have hzero := turns_zero l script a
  constructor
  · intro h hf
    rw [h, if_pos hf] at hzero
    simp at hzero
  · exact turns_of_not_fits l

/-- After a turn comes the next attempt, if there is one and it becomes a request. -/
theorem turns_succ {script : List Response} {a : Attempt} {i : Nat} {t : Attempt × Response}
    (h : (l.turns script a)[i]? = some t) :
    (l.turns script a)[i + 1]? = (l.next? t.1 t.2).bind fun b =>
      if Target.Fits (l.target b.token) then some (b, answerAt script (i + 1)) else none := by
  induction script, a using l.turns_induct generalizing i with
  | nil a ih =>
    rw [turns_nil] at h ⊢
    exact ih h
  | short script a hf =>
    rw [turns_of_not_fits l hf] at h
    simp at h
  | last r script a hf hn =>
    rw [turns_last l hf hn] at h ⊢
    obtain ⟨rfl, rfl⟩ : i = 0 ∧ (a, r) = t := by
      cases i <;> simp_all
    rw [hn]
    rfl
  | step r script a b hf hn ih =>
    rw [turns_step l hf hn] at h ⊢
    rw [List.getElem?_cons_succ]
    cases i with
    | zero =>
      cases h
      rw [hn]
      exact turns_zero l script b
    | succ i =>
      rw [List.getElem?_cons_succ] at h
      exact ih h

/-- A turn after the first one follows another turn. -/
theorem turns_pred {script : List Response} {a : Attempt} {i : Nat} {t : Attempt × Response}
    (h : (l.turns script a)[i + 1]? = some t) :
    ∃ u, (l.turns script a)[i]? = some u ∧ l.next? u.1 u.2 = some t.1 ∧ t.2 = answerAt script (i + 1) := by
  obtain ⟨hi, -⟩ := List.getElem?_eq_some_iff.mp h
  have hprev := List.getElem?_eq_getElem (Nat.lt_of_succ_lt hi)
  rw [turns_succ l hprev] at h
  obtain ⟨b, hnext, hb⟩ := Option.bind_eq_some_iff.mp h
  split at hb
  · cases hb
    exact ⟨_, hprev, hnext, rfl⟩
  · simp at hb

/-- The first turn is the first attempt. -/
theorem turns_first {script : List Response} {a : Attempt} {t : Attempt × Response}
    (h : (l.turns script a)[0]? = some t) : t = (a, answerAt script 0) := by
  rw [turns_zero] at h
  split at h
  · exact (Option.some.inj h).symm
  · simp at h

/-- Only attempts whose targets are not too long become requests. -/
theorem turns_fits {script : List Response} {a : Attempt} {t : Attempt × Response} (h : t ∈ l.turns script a) :
    Target.Fits (l.target t.1.token) := by
  induction script, a using l.turns_induct with
  | nil a ih => exact ih (turns_nil l a ▸ h)
  | short script a hf =>
    rw [turns_of_not_fits l hf] at h
    simp at h
  | last r script a hf hn =>
    rw [turns_last l hf hn] at h
    rw [List.mem_singleton.mp h]
    exact hf
  | step r script a b hf hn ih =>
    rw [turns_step l hf hn] at h
    rcases List.mem_cons.mp h with rfl | h
    · exact hf
    · exact ih h

/-- A turn without a next attempt is the last one. -/
theorem turns_length {script : List Response} {a : Attempt} {i : Nat} {t : Attempt × Response}
    (h : (l.turns script a)[i]? = some t) (hn : (l.turns script a)[i + 1]? = none) :
    (l.turns script a).length = i + 1 := by
  obtain ⟨hi, -⟩ := List.getElem?_eq_some_iff.mp h
  have := List.getElem?_eq_none_iff.mp hn
  omega

/-- After the turn of the last answer there is no attempt, or one that becomes no request. -/
theorem turns_getLast? {script : List Response} {a : Attempt} {r : Response}
    (h : ((l.turns script a).map Prod.snd).getLast? = some r) :
    ∃ i t, (l.turns script a)[i]? = some t ∧ (l.turns script a).length = i + 1 ∧ t.2 = r ∧
      ∀ b, l.next? t.1 r = some b → ¬Target.Fits (l.target b.token) := by
  obtain ⟨t, hlast, rfl⟩ := Option.map_eq_some_iff.mp (List.getLast?_map ▸ h)
  rw [List.getLast?_eq_getElem?] at hlast
  obtain ⟨hlt, -⟩ := List.getElem?_eq_some_iff.mp hlast
  refine ⟨_, t, hlast, by omega, rfl, fun b hb hfits => ?_⟩
  have hend : (l.turns script a)[(l.turns script a).length - 1 + 1]? = none :=
    List.getElem?_eq_none_iff.mpr (by omega)
  rw [turns_succ l hlast, hb, Option.bind_some, if_pos hfits] at hend
  simp at hend

/-- The answers are those of the script. -/
theorem turns_answer {script : List Response} {a : Attempt} {i : Nat} {t : Attempt × Response}
    (h : (l.turns script a)[i]? = some t) : t.2 = answerAt script i := by
  cases i with
  | zero => rw [turns_first l h]
  | succ i =>
    obtain ⟨u, -, -, ht⟩ := turns_pred l h
    exact ht

/-- The answers of the turns are those of the script, one after the other. -/
theorem turns_answers (script : List Response) (a : Attempt) :
    (l.turns script a).map Prod.snd = (List.range (l.turns script a).length).map (answerAt script) := by
  refine List.ext_getElem (by simp) fun i hi _ => ?_
  rw [List.length_map] at hi
  rw [List.getElem_map, List.getElem_map, List.getElem_range]
  exact turns_answer l (List.getElem?_eq_getElem hi)

/-- The number of failures that may pass directly before the answer with the number. -/
def failuresBefore (script : List Response) : Nat → Nat
  | 0 => 0
  | i + 1 => if (answerAt script i).IsRetryable then failuresBefore script i + 1 else 0

/-- Two failures or more stand before an answer when the two answers before it are some. -/
theorem two_le_failuresBefore_iff {script : List Response} {i : Nat} :
    2 ≤ failuresBefore script i ↔
      ∃ j, i = j + 2 ∧ (answerAt script j).IsRetryable ∧ (answerAt script (j + 1)).IsRetryable := by
  constructor
  · intro h
    rcases i with _ | _ | j
    · simp [failuresBefore] at h
    · unfold failuresBefore at h
      split at h <;> simp [failuresBefore] at h
    · by_cases h' : (answerAt script (j + 1)).IsRetryable
      · by_cases h'' : (answerAt script j).IsRetryable
        · exact ⟨j, rfl, h'', h'⟩
        · simp [failuresBefore, h', h''] at h
      · simp [failuresBefore, h'] at h
  · rintro ⟨j, rfl, h, h'⟩
    rw [failuresBefore, if_pos h', failuresBefore, if_pos h]
    omega

/-- An attempt has failed as often as failures that may pass stand directly before its answer. -/
theorem turns_failures {script : List Response} {token : Text} {i : Nat} {t : Attempt × Response}
    (h : (l.turns script ⟨token, 0⟩)[i]? = some t) : t.1.failures = failuresBefore script i := by
  induction i generalizing t with
  | zero =>
    rw [turns_first l h]
    rfl
  | succ i ih =>
    obtain ⟨u, hu, hnext, -⟩ := turns_pred l h
    rw [next?_failures l hnext, failuresBefore, ih hu, turns_answer l hu]

end Listing

end TaintSummary.Api
