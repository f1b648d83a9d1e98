import TaintSummary.Program
import TaintSummary.Proofs.Cluster

/-!
# When nothing is printed

A run that lists objects prints a report or nothing. `Cluster.Verdict` says which of them, and with what error, by the answers
that its listing has had: whether there is a report is decided by the last answer and by the objects of all of them, and the
error only by the last answer or by the first object that cannot be read. Every run that lists objects keeps to it
(`run_verdict`), whatever pages it has had and whatever failures it has gone through before.
-/

namespace TaintSummary

open Api

/-- The run ends with an error of the messages and prints nothing. -/
def Api.Exchange.Fails (x : Exchange RunError Text) (messages : List Text) : Prop :=
  ∃ e : RunError, x.result = .error e ∧ e.messages = messages ∧
    Program.outcome x = ⟨1, [], some e.report, x.requestLines⟩

namespace Api.Exchange

variable {x : Exchange RunError Text}

/-- A run that ends with an error tells the messages of this error. -/
theorem fails_of_result {e : RunError} (h : x.result = .error e) : x.Fails e.messages := by
  refine ⟨e, h, rfl, ?_⟩
  rw [Program.outcome, h]

/-- A run that ends with a text prints it. -/
theorem outcome_of_result {text : Text} (h : x.result = .ok text) :
    Program.outcome x = ⟨0, text, none, x.requestLines⟩ := by
  rw [Program.outcome, h]

end Api.Exchange

/-- The answer is a page after which there is no other. -/
def Api.Response.IsLast (r : Response) : Prop := ∃ page, r.page = .ok page ∧ page.token = []

/-- The message of a listing that is given up after failures that may pass. -/
theorem Api.Listing.message_retriesExhausted (plural : Text) (e : RequestError) :
    (ListingError.retriesExhausted plural e).message =
      "Failed to list ".toList ++ plural ++ " after 3 retries: ".toList ++ e.text := by
  have hafter : " after 3 retries: ".toList = " after ".toList ++ Text.ofNat attemptLimit ++ " retries: ".toList := by
    decide +kernel
  unfold ListingError.message
  simp only [hafter, List.append_assoc]

/-- The message of a listing whose next request is too long. -/
theorem Api.Listing.message_tooLong (l : Listing) :
    l.tooLong.message = "K8s API error listing ".toList ++ l.plural ++
      ": Failed to build request: failed to build request: uri too long".toList := by
  have hlong : ": Failed to build request: failed to build request: uri too long".toList =
      ": ".toList ++ (RequestError.target .tooLong).text := by decide +kernel
  unfold Listing.tooLong ListingError.message
  simp only [hlong, List.append_assoc]

namespace Cluster

variable {c : Cluster} {s : Settings} {before : List Text} {l : Listing} {kind : Text} {script : List Response}
  {objects : List Object}

/-- A run that comes to its listing has read the expression of its filter. -/
theorem Lists.hasCriterion (h : c.Lists s before l kind script) : s.HasCriterion := by
  cases h with
  | nodes command filter =>
    rw [Settings.HasCriterion, command]
    exact ⟨_, filter⟩
  | served command filter =>
    rw [Settings.HasCriterion, command]
    exact ⟨_, filter⟩

/-- The answers to the requests of the listing: as many as it makes. -/
def received (l : Listing) (script : List Response) : List Response := (l.turns script ⟨[], 0⟩).map Prod.snd

/-- What the settings make of the answers that the listing has had: a report of all their objects, or an error. -/
theorem Lists.result_eq (h : c.Lists s before l kind script) :
    (c.run s).result = (((l.ending (received l script).getLast?).map fun () =>
      (received l script).flatMap Response.objects).mapError .listing).bind (Summary.run s kind) := by
  rw [h.run_eq, Listing.fetch, received, List.flatMap_map]
  exact congrArg (fun r => (r.mapError RunError.listing).bind (Summary.run s kind))
    (Listing.fetchFrom_result h.isPathChar script ⟨[], 0⟩)

/-- What comes of a run that lists objects of a kind, by the answers that its listing has had. -/
structure Verdict (s : Settings) (l : Listing) (kind : Text) (answers : List Response) (x : Exchange RunError Text) :
    Prop where
  /-- Something is printed exactly when the last answer is a page without a token and every object of every page can be
  read. -/
  printed : (Program.outcome x).stdout ≠ [] ↔
    (∃ r, answers.getLast? = some r ∧ r.IsLast) ∧ ∀ o ∈ answers.flatMap Response.objects, s.refusal? o = none
  /-- After a page without a token the error is that of the first object that cannot be read. -/
  unreadable : ∀ r, answers.getLast? = some r → r.IsLast → ∀ front o after cause,
    answers.flatMap Response.objects = front ++ o :: after → (∀ b ∈ front, s.refusal? b = none) →
    s.refusal? o = some cause →
    x.Fails (("Failed to read ".toList ++ kind ++ " '".toList ++ o.name ++ "'".toList) :: cause.messages)
  /-- After an answer that is neither a page nor a failure that may pass the error is that of the answer. -/
  refused : ∀ r e, answers.getLast? = some r → r.page = .error e → ¬r.IsRetryable →
    x.Fails ["K8s API error listing ".toList ++ l.plural ++ ": ".toList ++ e.text]
  /-- A failure that may pass is the last answer only when it is the third in a row, and then the error is that of it. -/
  exhausted : ∀ r e, answers.getLast? = some r → r.page = .error e → r.IsRetryable →
    (∃ front r₁ r₂, answers = front ++ [r₁, r₂, r] ∧ r₁.IsRetryable ∧ r₂.IsRetryable) ∧
      x.Fails ["Failed to list ".toList ++ l.plural ++ " after 3 retries: ".toList ++ e.text]
  /-- When there is no answer, or the last one is a page with a token, the next request is too long to be sent, and that is the
  error. -/
  tooLong : ∀ token, (answers = [] ∧ token = []) ∨
      (∃ r page, answers.getLast? = some r ∧ r.page = .ok page ∧ page.token = token ∧ token ≠ []) →
    ¬Target.Fits (l.target token) ∧ x.Fails ["K8s API error listing ".toList ++ l.plural ++
      ": Failed to build request: failed to build request: uri too long".toList]

/-- A failure that may pass and is the last answer is the third in a row. -/
theorem received_exhausted {r : Response} (hlast : (received l script).getLast? = some r) (hr : r.IsRetryable) :
    ∃ front r₁ r₂, received l script = front ++ [r₁, r₂, r] ∧ r₁.IsRetryable ∧ r₂.IsRetryable := by
  obtain ⟨i, t, ht, hlength, hanswer, hend⟩ := Listing.turns_getLast? l hlast
  have hthird : 2 ≤ Listing.failuresBefore script i := by
    refine Nat.not_lt.mp fun hfew => ?_
    have hlt : t.1.failures + 1 < attemptLimit := by
      rw [Listing.turns_failures l ht, attemptLimit]
      omega
    have hnext := Listing.next?_of_isRetryable l (a := t.1) hr
    rw [if_pos hlt] at hnext
    exact hend _ hnext (Listing.turns_fits l (List.mem_of_getElem? ht))
  obtain ⟨j, rfl, h₁, h₂⟩ := Listing.two_le_failuresBefore_iff.mp hthird
  refine ⟨(List.range j).map (answerAt script), _, _, ?_, h₁, h₂⟩
  rw [← hanswer, Listing.turns_answer l ht, received, Listing.turns_answers, hlength]
  simp [List.range_succ]

/-- When a listing has had no answer or its last answer is a page with a token, the next request is too long to be sent. -/
theorem not_fits_of_received {token : Text} (h : (received l script = [] ∧ token = []) ∨
    ∃ r page, (received l script).getLast? = some r ∧ r.page = .ok page ∧ page.token = token ∧ token ≠ []) :
    ¬Target.Fits (l.target token) ∧ l.ending (received l script).getLast? = .error l.tooLong := by
  rcases h with ⟨hnil, rfl⟩ | ⟨r, page, hr, hpage, rfl, htoken⟩
  · exact ⟨(Listing.turns_eq_nil_iff l).mp (List.map_eq_nil_iff.mp hnil), by rw [hnil]; rfl⟩
  · obtain ⟨i, t, -, -, -, hend⟩ := Listing.turns_getLast? l hr
    have hnext := Listing.next?_of_page l (a := t.1) hpage
    rw [if_neg htoken] at hnext
    refine ⟨hend _ hnext, ?_⟩
    rw [hr, Listing.ending, hpage]
    exact if_neg htoken

/-- After a page without a token there is a summary of the objects of all answers, or the error of one. -/
theorem Lists.result_of_isLast (h : c.Lists s before l kind script) {r : Response}
    (hr : (received l script).getLast? = some r) (hlast : r.IsLast) :
    (c.run s).result = Summary.run s kind ((received l script).flatMap Response.objects) := by
  obtain ⟨page, hpage, htoken⟩ := hlast
  rw [h.result_eq, hr, Listing.ending, hpage]
  simp [htoken, Except.map, Except.bind]

/-- Only a page without a token is the last answer of a run that gives a report. -/
theorem Lists.isLast_of_result (h : c.Lists s before l kind script) {text : Text} (hresult : (c.run s).result = .ok text) :
    ∃ r, (received l script).getLast? = some r ∧ r.IsLast := by
  rw [h.result_eq] at hresult
  cases hr : (received l script).getLast? with
  | none => simp [hr, Listing.ending, Except.map, Except.bind] at hresult
  | some r =>
    cases hpage : r.page with
    | ok page =>
      by_cases htoken : page.token = []
      · exact ⟨r, rfl, page, hpage, htoken⟩
      · simp [hr, Listing.ending, hpage, htoken, Except.map, Except.bind] at hresult
    | error e => simp [hr, Listing.ending, hpage, Except.map, Except.bind] at hresult

/-- What comes of a run that lists objects is told by its last answer and by the objects. -/
theorem Lists.verdict (h : c.Lists s before l kind script) : Verdict s l kind (received l script) (c.run s) := by
  have hresult := h.result_eq
  constructor
  case printed =>
    constructor
    · intro hprinted
      cases hrun : (c.run s).result with
      | error e => simp [Program.outcome, hrun] at hprinted
      | ok text =>
        obtain ⟨r, hr, hlast⟩ := h.isLast_of_result hrun
        rw [h.result_of_isLast hr hlast] at hrun
        exact ⟨⟨r, hr, hlast⟩, (Summary.run_ok_iff h.hasCriterion).mp ⟨text, hrun⟩⟩
    · rintro ⟨⟨r, hr, hlast⟩, hread⟩
      obtain ⟨text, htext⟩ := (Summary.run_ok_iff h.hasCriterion).mpr hread
      rw [Exchange.outcome_of_result ((h.result_of_isLast hr hlast).trans htext)]
      exact Summary.run_ne_nil htext
  case unreadable =>
    intro r hr hlast front o after cause hobjects hfront hcause
    have herror := h.result_of_isLast hr hlast
    rw [Summary.run_eq_error h.hasCriterion hobjects hfront hcause] at herror
    exact Exchange.fails_of_result herror
  case refused =>
    intro r e hr hpage hpass
    simp only [hr, Listing.ending, hpage, if_neg hpass] at hresult
    exact Exchange.fails_of_result hresult
  case exhausted =>
    intro r e hr hpage hpass
    simp only [hr, Listing.ending, hpage, if_pos hpass] at hresult
    refine ⟨received_exhausted hr hpass, ?_⟩
    rw [← Listing.message_retriesExhausted]
    exact Exchange.fails_of_result hresult
  case tooLong =>
    intro token hlast
    obtain ⟨hlong, hending⟩ := not_fits_of_received hlast
    rw [hending] at hresult
    rw [← Listing.message_tooLong]
    exact ⟨hlong, Exchange.fails_of_result hresult⟩

end Cluster

/-- Every run that lists objects, for every script, ends as the answers that its listing has had decide. -/
theorem run_verdict {c : Cluster} {s : Settings} {before : List Text} {l : Listing} {kind : Text} {script : List Response}
    (h : c.Lists s before l kind script) :
    ∃ qs, (c.run s).requests = before ++ qs ∧
      Cluster.Verdict s l kind ((List.range qs.length).map (answerAt script)) (c.run s) := by
  refine ⟨(l.turns script ⟨[], 0⟩).map fun t => l.target t.1.token, h.requests_eq, ?_⟩
  rw [List.length_map, ← Listing.turns_answers]
  exact h.verdict

/-- A node with a taint of an effect that there is not. -/
def unreadableNode : Json :=
  .object [("spec".toList, .object [("taints".toList, .array [.object [("effect".toList, .string "Never".toList)]])])]

/-- A page with a node that cannot be read is the last one. -/
theorem run_verdict_unreadable :
    let script : List Response := [⟨429, []⟩, .ofItems [unreadableNode] []]
    ∃ qs, (Cluster.run ⟨none, script⟩ Cluster.allTaints).requests = [] ++ qs ∧
      Cluster.Verdict Cluster.allTaints Cluster.nodes "Node".toList ((List.range qs.length).map (answerAt script))
        (Cluster.run ⟨none, script⟩ Cluster.allTaints) :=
  run_verdict (.nodes rfl rfl rfl)

/-- Not every failing run of which the last answer is a page fails with an object: when the page has a token of 65534 letters, the
run fails with the request for the next page, although there is an object that cannot be read. -/
theorem not_run_unreadable :
    ¬∀ (c : Cluster) (s : Settings) (before : List Text) (l : Listing) (kind : Text) (script : List Response),
      c.Lists s before l kind script → ∃ qs, (c.run s).requests = before ++ qs ∧
        ∀ r page, ((List.range qs.length).map (answerAt script)).getLast? = some r → r.page = .ok page →
          ∀ front o after cause, ((List.range qs.length).map (answerAt script)).flatMap Response.objects = front ++ o :: after →
            (∀ b ∈ front, s.refusal? b = none) → s.refusal? o = some cause →
            (c.run s).Fails (("Failed to read ".toList ++ kind ++ " '".toList ++ o.name ++ "'".toList) :: cause.messages) := by
  intro h
  have hpage : (Response.ofItems [unreadableNode] Cluster.longToken).page =
      .ok ⟨[⟨[], [], unreadableNode⟩], Cluster.longToken⟩ := Response.page_ofItems _ rfl rfl rfl
  obtain ⟨qs, hrequests, hfails⟩ := h ⟨none, [.ofItems [unreadableNode] Cluster.longToken, .ofItems [] []]⟩
    Cluster.allTaints [] Cluster.nodes "Node".toList _ (Cluster.lists_nodes _)
  rw [Cluster.run_longToken _ hpage] at hrequests hfails
  rw [List.nil_append] at hrequests
  rw [← hrequests] at hfails
  have hobjects : (Response.ofItems [unreadableNode] Cluster.longToken).objects = [⟨[], [], unreadableNode⟩] := by
    rw [Response.objects, hpage]
  obtain ⟨e, he, hmessages, -⟩ := hfails _ _ rfl hpage [] ⟨[], [], unreadableNode⟩ [] _ (by simpa [answerAt] using hobjects)
    (by simp) rfl
  cases he
  simp [RunError.messages, EntryError.messages] at hmessages

end TaintSummary
