import TaintSummary.Proofs.Api.Turns

/-!
# Reading a listing off its turns

`fetchFrom_cons` is the one step of a listing whose path is ordinary: the request is sent, the answer is waited for when it is a
failure that may pass, and the listing goes on with the next attempt, if there is one. The requests, the wait and the result of a
whole listing follow from it by induction on the script. Whatever the path is, a request is the target of a page up to a number
sign (`eq_before_target`).
-/

namespace TaintSummary.Api

namespace Exchange

variable {ε α : Type} {target : Text} {invalid : TargetError → ε} {x : Exchange ε α} {q : Text}

/-- The first request of all is what is sent of the target. -/
theorem parse_of_first_request (h : (ask target invalid x).requests[0]? = some q) : Target.parse target = .ok q := by
  unfold ask at h
  split at h
  · next hparse => rw [hparse, Option.some.inj h]
  · cases h

/-- A request is what is sent of the target, or one of those that come later. -/
theorem mem_requests_ask (h : q ∈ (ask target invalid x).requests) : Target.parse target = .ok q ∨ q ∈ x.requests := by
  unfold ask at h
  split at h
  · next hparse =>
    rcases List.mem_cons.mp h with rfl | hrest
    · exact Or.inl hparse
    · exact Or.inr hrest
  · cases h

end Exchange

namespace Listing

variable (l : Listing)

/-- The query of the request for the page with the token. -/
def query (token : Text) : Text :=
  "&limit=500".toList ++ if token = [] then [] else "&continue=".toList ++ FormEncoding.encode token

/-- The target of a page is the path and its query. -/
theorem target_eq (token : Text) : l.target token = l.path ++ '?' :: query token := by
  have hlimit : "?&limit=".toList ++ Text.ofNat pageSize = '?' :: "&limit=500".toList := by decide
  rw [target, List.append_assoc l.path, hlimit, List.append_assoc]
  rfl

theorem query_nil : query [] = "&limit=500".toList := List.append_nil _

/-- With a token the query asks for its page. -/
theorem query_of_ne_nil {token : Text} (h : token ≠ []) :
    query token = "&limit=500".toList ++ ("&continue=".toList ++ FormEncoding.encode token) :=
  congrArg ("&limit=500".toList ++ ·) (if_neg h)

/-- The first page is asked for without a token. -/
theorem target_nil : l.target [] = l.path ++ "?&limit=500".toList := by
  have hlimit : "?&limit=500".toList = '?' :: "&limit=500".toList := by decide
  rw [hlimit, target_eq, query_nil]

/-- Every other page is asked for with its token. -/
theorem target_of_ne_nil {token : Text} (h : token ≠ []) :
    l.target token = l.path ++ "?&limit=500".toList ++ "&continue=".toList ++ FormEncoding.encode token := by
  have hlimit : "?&limit=500".toList = '?' :: "&limit=500".toList := by decide
  rw [hlimit, target_eq, query_of_ne_nil h]
  simp only [List.append_assoc, List.cons_append]

/-- A target is longer than its token. -/
theorem length_lt_length_target (token : Text) : token.length < (l.target token).length := by
  rw [target_eq, List.length_append, List.length_cons]
  by_cases h : token = []
  · rw [h, List.length_nil]
    omega
  · have := FormEncoding.length_le_length_encode token
    rw [query_of_ne_nil h, List.length_append, List.length_append]
    omega

/-- A query is sent as it is: its characters are those that a query may have. -/
theorem isQueryChar_of_mem_query {token : Text} {c : Char} (h : c ∈ query token) : Target.isQueryChar c = true := by
  have hlimit : ∀ c ∈ "&limit=500".toList, Target.isQueryChar c = true := List.all_eq_true.mp (by decide)
  have hcontinue : ∀ c ∈ "&continue=".toList, Target.isQueryChar c = true := List.all_eq_true.mp (by decide)
  unfold query at h
  rcases List.mem_append.mp h with h | h
  · exact hlimit c h
  · split at h
    · simp at h
    · rcases List.mem_append.mp h with h | h
      · exact hcontinue c h
      · exact FormEncoding.isQueryChar_of_mem_encode h

/-- The failure of an attempt whose target is too long. -/
def tooLong : ListingError := .refused l.plural (.target .tooLong)

/-- What a listing comes to by its last answer, if it has one. A page with a token is the last answer only when the request for the
page of the token is too long. -/
def ending : Option Response → Except ListingError Unit
  | none => .error l.tooLong
  | some r =>
    match r.page with
    | .ok page => if page.token = [] then .ok () else .error l.tooLong
    | .error e => .error (if r.IsRetryable then .retriesExhausted l.plural e else .refused l.plural e)

/-- The wait after an answer, so many failures having come before. -/
def waitMs (failures : Nat) (r : Response) : Nat := if r.IsRetryable then delayMs failures else 0

/-- After the end of a script the listing goes on as if the last answer of all were written there. -/
theorem fetchFrom_nil (failures : Nat) (token : Text) :
    l.fetchFrom [] failures token = l.fetchFrom [.exhausted] failures token := by
  rw [fetchFrom, fetchFrom, step_of_not_isRetryable l _ Response.page_exhausted Response.not_isRetryable_exhausted]
  rfl

/-- Every request is what is sent of the target of a page. -/
theorem exists_token_of_mem_requests {script : List Response} {failures : Nat} {token q : Text}
    (h : q ∈ (l.fetchFrom script failures token).requests) : ∃ token', Target.parse (l.target token') = .ok q := by
  induction script generalizing failures token with
  | nil =>
    rw [fetchFrom] at h
    rcases Exchange.mem_requests_ask h with hsent | hrest
    · exact ⟨token, hsent⟩
    · cases hrest
  | cons r script ih =>
    rw [fetchFrom] at h
    rcases Exchange.mem_requests_ask h with hsent | hrest
    · exact ⟨token, hsent⟩
    · cases hstep : l.step failures r with
      | take page =>
        rw [hstep] at hrest
        by_cases htoken : page.token = []
        · simp [htoken, Exchange.delayed, Exchange.pure] at hrest
        · exact ih (by simpa [htoken, Exchange.delayed, Exchange.mapResult] using hrest)
      | again =>
        rw [hstep] at hrest
        exact ih hrest
      | stop e =>
        rw [hstep] at hrest
        cases hrest

/-- The first request, if there is one, is what is sent of the target of the page that is asked for first. -/
theorem parse_of_first_request {script : List Response} {failures : Nat} {token q : Text}
    (h : (l.fetchFrom script failures token).requests[0]? = some q) : Target.parse (l.target token) = .ok q := by
  cases script <;> exact Exchange.parse_of_first_request h

/-- What is sent for a page is the target up to a number sign. -/
theorem eq_before_of_parse {token q : Text} (h : Target.parse (l.target token) = .ok q) :
    q = Text.before '#' (l.path ++ '?' :: query token) :=
  l.target_eq token ▸ Target.eq_before_of_sent? (Target.sent?_of_parse h)

/-- Every request is the target of a page up to a number sign, whatever the path is. -/
theorem eq_before_target {script : List Response} {q : Text} (h : q ∈ (l.fetch script).requests) :
    ∃ token, q = Text.before '#' (l.path ++ '?' :: query token) := by
  obtain ⟨token, htoken⟩ := l.exists_token_of_mem_requests h
  exact ⟨token, l.eq_before_of_parse htoken⟩

/-- The query of a request holds no number sign. -/
theorem not_mem_query (token : Text) : '#' ∉ query token :=
  fun h => absurd (isQueryChar_of_mem_query h) (by decide)

/-- A path without a number sign is asked for as it is. -/
theorem before_target (hpath : '#' ∉ l.path) (token : Text) :
    Text.before '#' (l.path ++ '?' :: query token) = l.path ++ '?' :: query token :=
  Text.before_eq_self (by simp [hpath, not_mem_query])

/-- A path with neither mark, once it is asked for, is one that is sent as it is. -/
theorem isPathChar_of_requests (hplain : ∀ ch ∈ l.path, ch ≠ '?' ∧ ch ≠ '#') {script : List Response}
    (h : (l.fetch script).requests ≠ []) : ∀ ch ∈ l.path, Target.isPathChar ch = true := by
  obtain ⟨q, hq⟩ := List.exists_mem_of_ne_nil _ h
  obtain ⟨token, htoken⟩ := l.exists_token_of_mem_requests hq
  rw [target_eq] at htoken
  exact Target.isPathChar_of_sent? (Target.sent?_of_parse htoken) hplain

/-- The wait in milliseconds after the answers, so many failures having come directly before: it is for the failures that may pass,
100 for the first of them, and each one in a row doubles it. -/
def waitedMs : (failures : Nat) → List Response → Nat
  | _, [] => 0
  | failures, r :: rest => if r.IsRetryable then 100 * Nat.pow 2 failures + waitedMs (failures + 1) rest else waitedMs 0 rest

/-- The waits are those after each answer in turn. -/
theorem waitedMs_cons (failures : Nat) (r : Response) (rest : List Response) :
    waitedMs failures (r :: rest) = waitMs failures r + waitedMs (if r.IsRetryable then failures + 1 else 0) rest := by
  rw [waitedMs, waitMs, delayMs]
  split <;> simp

section

variable {l} (hpath : ∀ c ∈ l.path, Target.isPathChar c = true)
include hpath

/-- An ordinary path is sent with its query as they are, unless they are too long. -/
theorem parse_target (token : Text) :
    Target.parse (l.target token) = if Target.Fits (l.target token) then .ok (l.target token) else .error .tooLong := by
  rw [target_eq]
  exact Target.parse_eq_of_sent? (Target.sent?_query hpath fun c hc => isQueryChar_of_mem_query hc)

/-- A target that is too long is not asked for. -/
theorem fetchFrom_of_not_fits {script : List Response} {a : Attempt} (h : ¬Target.Fits (l.target a.token)) :
    l.fetchFrom script a.failures a.token = .pure (.error l.tooLong) := by
  cases script with
  | nil => rw [fetchFrom, Exchange.ask, parse_target hpath, if_neg h]; rfl
  | cons r script => rw [fetchFrom, Exchange.ask, parse_target hpath, if_neg h]; rfl

/-- A listing takes a step: it asks, waits if the answer is a failure that may pass, and goes on. -/
theorem fetchFrom_cons {r : Response} {script : List Response} {a : Attempt} (h : Target.Fits (l.target a.token)) :
    l.fetchFrom (r :: script) a.failures a.token =
      match l.next? a r with
      | some b =>
        ⟨l.target a.token :: (l.fetchFrom script b.failures b.token).requests,
          waitMs a.failures r + (l.fetchFrom script b.failures b.token).sleptMs,
          (l.fetchFrom script b.failures b.token).result.map (r.objects ++ ·)⟩
      | none => ⟨[l.target a.token], waitMs a.failures r, (l.ending (some r)).map fun () => r.objects⟩ := by
  rw [fetchFrom, Exchange.ask, parse_target hpath, if_pos h]
  cases hpage : r.page with
  | ok page =>
    have hr := Response.not_isRetryable_of_page hpage
    rw [step_of_page l _ hpage, next?_of_page l hpage]
    by_cases ht : page.token = []
    · simp [ht, Exchange.delayed, Exchange.pure, Step.waitMs, waitMs, hr, ending, hpage, Response.objects, Except.map]
    · simp [ht, Exchange.delayed, Exchange.mapResult, Step.waitMs, waitMs, hr, Response.objects, hpage]
  | error e =>
    by_cases hr : r.IsRetryable
    · rw [step_of_isRetryable l hpage hr, next?_of_isRetryable l hr]
      by_cases hlt : a.failures + 1 < attemptLimit
      · have hid (x : Except ListingError (List Object)) : x.map (r.objects ++ ·) = x := by
          cases x <;> simp [Except.map, Response.objects, hpage]
        simp [hlt, hid, Exchange.delayed, Step.waitMs, waitMs, hr]
      · simp [hlt, Exchange.delayed, Exchange.pure, Step.waitMs, waitMs, hr, ending, hpage, Except.map]
    · rw [step_of_not_isRetryable l _ hpage hr, next?_of_not_isRetryable l hpage hr]
      simp [Exchange.delayed, Exchange.pure, Step.waitMs, waitMs, hr, ending, hpage, Except.map]

/-- After the last answer the listing ends as this answer tells. -/
theorem fetchFrom_last {r : Response} {script : List Response} {a : Attempt} (h : Target.Fits (l.target a.token))
    (hn : l.next? a r = none) :
    l.fetchFrom (r :: script) a.failures a.token =
      ⟨[l.target a.token], waitMs a.failures r, (l.ending (some r)).map fun () => r.objects⟩ := by
  rw [fetchFrom_cons hpath h, hn]

/-- After any other answer the listing goes on with the next attempt. -/
theorem fetchFrom_step {r : Response} {script : List Response} {a b : Attempt} (h : Target.Fits (l.target a.token))
    (hn : l.next? a r = some b) :
    l.fetchFrom (r :: script) a.failures a.token =
      ⟨l.target a.token :: (l.fetchFrom script b.failures b.token).requests,
        waitMs a.failures r + (l.fetchFrom script b.failures b.token).sleptMs,
        (l.fetchFrom script b.failures b.token).result.map (r.objects ++ ·)⟩ := by
  rw [fetchFrom_cons hpath h, hn]

/-- The requests are those of the turns. -/
theorem fetchFrom_requests (script : List Response) (a : Attempt) :
    (l.fetchFrom script a.failures a.token).requests = (l.turns script a).map fun t => l.target t.1.token := by
  induction script, a using l.turns_induct with
  | nil a ih => rw [fetchFrom_nil, turns_nil, ih]
  | short script a h => rw [fetchFrom_of_not_fits hpath h, turns_of_not_fits l h]; rfl
  | last r script a h hn => rw [fetchFrom_last hpath h hn, turns_last l h hn]; rfl
  | step r script a b h hn ih => rw [fetchFrom_step hpath h hn, turns_step l h hn, List.map_cons, ih]

/-- The waits are those for the answers of the turns. -/
theorem fetchFrom_sleptMs (script : List Response) (a : Attempt) :
    (l.fetchFrom script a.failures a.token).sleptMs = waitedMs a.failures ((l.turns script a).map Prod.snd) := by
  induction script, a using l.turns_induct with
  | nil a ih => rw [fetchFrom_nil, turns_nil, ih]
  | short script a h => rw [fetchFrom_of_not_fits hpath h, turns_of_not_fits l h]; rfl
  | last r script a h hn =>
    rw [fetchFrom_last hpath h hn, turns_last l h hn, List.map_singleton, waitedMs_cons, waitedMs, Nat.add_zero]
  | step r script a b h hn ih =>
    rw [fetchFrom_step hpath h hn, turns_step l h hn, List.map_cons, waitedMs_cons, ih, next?_failures l hn]

omit hpath in
/-- A request that is too long to be sent is one for the page of a token. -/
theorem ending_of_not_fits {r : Response} {a b : Attempt} (ha : Target.Fits (l.target a.token))
    (hn : l.next? a r = some b) (hb : ¬Target.Fits (l.target b.token)) : l.ending (some r) = .error l.tooLong := by
  cases hpage : r.page with
  | ok page =>
    rw [next?_of_page l hpage] at hn
    split at hn
    · simp at hn
    · next ht => simp [ending, hpage, ht]
  | error e =>
    by_cases hr : r.IsRetryable
    · rw [next?_of_isRetryable l hr] at hn
      split at hn
      · cases hn
        exact absurd ha hb
      · simp at hn
    · rw [next?_of_not_isRetryable l hpage hr] at hn
      simp at hn

/-- The last answer decides about the result, and the objects are those of all answers. -/
theorem fetchFrom_result (script : List Response) (a : Attempt) :
    (l.fetchFrom script a.failures a.token).result =
      (l.ending ((l.turns script a).map Prod.snd).getLast?).map fun () =>
        (l.turns script a).flatMap fun t => t.2.objects := by
  induction script, a using l.turns_induct with
  | nil a ih => rw [fetchFrom_nil, turns_nil, ih]
  | short script a h => rw [fetchFrom_of_not_fits hpath h, turns_of_not_fits l h]; rfl
  | last r script a h hn =>
    rw [fetchFrom_last hpath h hn, turns_last l h hn]
    simp
  | step r script a b h hn ih =>
    rw [fetchFrom_step hpath h hn, turns_step l h hn, List.map_cons, List.getLast?_cons, ih]
    cases hlast : ((l.turns script b).map Prod.snd).getLast? with
    | none =>
      have hnil := List.map_eq_nil_iff.mp (List.getLast?_eq_none_iff.mp hlast)
      rw [Option.getD_none, ending_of_not_fits h hn ((turns_eq_nil_iff l).mp hnil)]
      rfl
    | some r' =>
      rw [Option.getD_some]
      cases l.ending (some r') <;> simp [Except.map]

end

end Listing

end TaintSummary.Api
