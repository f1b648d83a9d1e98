import TaintSummary.Proofs.Cluster

/-!
# What a listing asks for

`Listing.Follows` says how the requests of a listing follow from the answers, for every script: which request comes next after
which answer, and after which answers there is none. The requests of every run that lists objects do (`requests_follow`), and
the run has waited for exactly the failures that may pass.
-/

namespace TaintSummary

open Api

namespace Api.Listing

/-- The requests are the ones that a listing makes, the answer to each of them being the one at its place in the script. -/
structure Follows (l : Listing) (script : List Response) (qs : List Text) : Prop where
  /-- The first request has no token. Only when it is too long to be sent there is no request at all. -/
  first : qs[0]? =
    let q := l.path ++ "?&limit=500".toList
    if Target.Fits q then some q else none
  /-- The requests differ in their tokens only. -/
  alike : ∀ q ∈ qs, q = l.path ++ "?&limit=500".toList ∨
    ∃ value, q = l.path ++ "?&limit=500".toList ++ "&continue=".toList ++ value
  /-- After a failure that may pass, and before which not two others stand, the same request is made again. -/
  again : ∀ i < qs.length, (answerAt script i).IsRetryable → failuresBefore script i < 2 → qs[i + 1]? = qs[i]?
  /-- After three failures in a row that may pass there is no request. -/
  givenUp : ∀ i, (answerAt script i).IsRetryable → (answerAt script (i + 1)).IsRetryable →
    (answerAt script (i + 2)).IsRetryable → qs.length ≤ i + 3
  /-- After a page with a token the page of the token is asked for, and the token can be read from the request. Only when
  that request is too long to be sent there is none. -/
  continued : ∀ i < qs.length, ∀ page, (answerAt script i).page = .ok page → page.token ≠ [] →
    FormEncoding.decode? (FormEncoding.encode page.token) = some page.token ∧
      qs[i + 1]? =
        let q := l.path ++ "?&limit=500".toList ++ "&continue=".toList ++ FormEncoding.encode page.token
        if Target.Fits q then some q else none
  /-- After any other answer there is no request. -/
  ended : ∀ i < qs.length, ¬(answerAt script i).IsRetryable →
    (∀ page, (answerAt script i).page = .ok page → page.token = []) → qs.length = i + 1

variable (l : Listing)

/-- The requests of the turns follow from the answers. -/
theorem follows_turns (script : List Response) :
    l.Follows script ((l.turns script ⟨[], 0⟩).map fun t => l.target t.1.token) := by
  have turn {i : Nat} (hi : i < ((l.turns script ⟨[], 0⟩).map fun t => l.target t.1.token).length) :
      ∃ t, (l.turns script ⟨[], 0⟩)[i]? = some t ∧ t.2 = answerAt script i ∧ t.1.failures = failuresBefore script i := by
    rw [List.length_map] at hi
    have ht := List.getElem?_eq_getElem hi
    exact ⟨_, ht, turns_answer l ht, turns_failures l ht⟩
  constructor
  case first =>
    rw [List.getElem?_map, turns_zero, ← target_nil]
    by_cases hf : Target.Fits (l.target []) <;> simp [hf]
  case alike =>
    intro q hq
    obtain ⟨t, -, rfl⟩ := List.mem_map.mp hq
    by_cases ht : t.1.token = []
    · exact Or.inl (by rw [ht, target_nil])
    · exact Or.inr ⟨_, target_of_ne_nil l ht⟩
  case again =>
    intro i hi hr hlt
    obtain ⟨t, ht, hanswer, hfailures⟩ := turn hi
    have hlimit : t.1.failures + 1 < attemptLimit := by
      rw [hfailures]
      exact Nat.succ_lt_succ hlt
    have hfits := turns_fits l (List.mem_of_getElem? ht)
    have hnext := turns_succ l ht
    rw [next?_of_isRetryable l (hanswer ▸ hr), if_pos hlimit] at hnext
    simp [List.getElem?_map, hnext, ht, hfits]
  case givenUp =>
    intro i h h' h''
    by_cases hi : i + 2 < ((l.turns script ⟨[], 0⟩).map fun t => l.target t.1.token).length
    · obtain ⟨t, ht, hanswer, hfailures⟩ := turn hi
      have hlimit : ¬t.1.failures + 1 < attemptLimit := by
        have := two_le_failuresBefore_iff.mpr ⟨i, rfl, h, h'⟩
        rw [hfailures, attemptLimit]
        omega
      have hnext := turns_succ l ht
      rw [next?_of_isRetryable l (hanswer ▸ h''), if_neg hlimit] at hnext
      have := turns_length l ht hnext
      rw [List.length_map]
      omega
    · omega
  case continued =>
    intro i hi page hpage htoken
    obtain ⟨t, ht, hanswer, -⟩ := turn hi
    have hnext := turns_succ l ht
    rw [next?_of_page l (hanswer ▸ hpage), if_neg htoken] at hnext
    refine ⟨FormEncoding.decode?_encode page.token, ?_⟩
    rw [List.getElem?_map, hnext, ← target_of_ne_nil l htoken]
    by_cases hf : Target.Fits (l.target page.token) <;> simp [hf]
  case ended =>
    intro i hi hr hpage
    obtain ⟨t, ht, hanswer, -⟩ := turn hi
    have hend : l.next? t.1 t.2 = none := by
      rw [hanswer]
      cases hp : (answerAt script i).page with
      | ok page => rw [next?_of_page l hp, if_pos (hpage page hp)]
      | error e => exact next?_of_not_isRetryable l hp hr
    have hnext := turns_succ l ht
    rw [hend] at hnext
    rw [List.length_map]
    exact turns_length l ht hnext

variable {l}

/-- The requests of a listing whose path is sent as it is. -/
theorem follows_fetch (hpath : ∀ ch ∈ l.path, Target.isPathChar ch = true) (script : List Response) :
    l.Follows script (l.fetch script).requests := by
  have hrequests := fetchFrom_requests hpath script ⟨[], 0⟩
  rw [fetch, hrequests]
  exact l.follows_turns script

/-- All requests of a listing are for its path. -/
theorem Follows.before_eq {script : List Response} {qs : List Text} (h : l.Follows script qs) (hpath : '?' ∉ l.path)
    {q : Text} (hq : q ∈ qs) : Text.before '?' q = l.path := by
  have hmark : "?&limit=500".toList = '?' :: "&limit=500".toList := by decide
  rcases h.alike q hq with rfl | ⟨value, rfl⟩
  · rw [hmark, Text.before_append_cons hpath]
  · rw [hmark, List.append_assoc, List.append_assoc, List.cons_append, Text.before_append_cons hpath]

end Api.Listing

/-- The requests of a run that lists objects are those before its listing and then, for every script, the ones that follow from
the answers; and it waits 100 ms after a failure that may pass, and twice as long after each further one in a row. -/
theorem requests_follow {c : Cluster} {s : Settings} {before : List Text} {l : Listing} {kind : Text}
    {script : List Response} (h : c.Lists s before l kind script) :
    ∃ qs, (c.run s).requests = before ++ qs ∧ l.Follows script qs ∧
      (c.run s).sleptMs = Listing.waitedMs 0 ((List.range qs.length).map (answerAt script)) := by
  refine ⟨(l.turns script ⟨[], 0⟩).map fun t => l.target t.1.token, h.requests_eq, l.follows_turns script, ?_⟩
  rw [h.run_eq, Listing.fetch, List.length_map, ← Listing.turns_answers]
  exact Listing.fetchFrom_sleptMs h.isPathChar script ⟨[], 0⟩

/-- A listing of two pages, the second of which is given up after three failures. -/
theorem requests_follow_given_up :
    let script : List Response := [.ofItems [] "next".toList, ⟨503, []⟩, ⟨503, []⟩, ⟨503, []⟩]
    ∃ qs, (Cluster.run ⟨none, script⟩ Cluster.allTaints).requests = [] ++ qs ∧ Cluster.nodes.Follows script qs ∧
      (Cluster.run ⟨none, script⟩ Cluster.allTaints).sleptMs =
        Listing.waitedMs 0 ((List.range qs.length).map (answerAt script)) :=
  requests_follow (.nodes rfl rfl rfl)

/-- Without the exception for requests that are too long they do not: after a page with a token of 65534 letters there is no
request. -/
theorem not_requests_continue :
    ¬∀ (c : Cluster) (s : Settings) (before : List Text) (l : Listing) (kind : Text) (script : List Response),
      c.Lists s before l kind script → ∃ qs, (c.run s).requests = before ++ qs ∧
        ∀ i < qs.length, ∀ page, (answerAt script i).page = .ok page → page.token ≠ [] →
          qs[i + 1]? = some (l.path ++ "?&limit=500".toList ++ "&continue=".toList ++ FormEncoding.encode page.token) := by
  intro h
  have hpage : (Response.ofItems [] Cluster.longToken).page = .ok ⟨[], Cluster.longToken⟩ :=
    Response.page_ofItems _ rfl rfl rfl
  obtain ⟨qs, hrequests, hnext⟩ := h ⟨none, [.ofItems [] Cluster.longToken, .ofItems [] []]⟩ Cluster.allTaints []
    Cluster.nodes "Node".toList _ (Cluster.lists_nodes _)
  rw [Cluster.run_longToken _ hpage, List.nil_append] at hrequests
  have hsecond := hnext 0 (by simp [← hrequests]) _ hpage Cluster.longToken_ne_nil
  rw [← hrequests] at hsecond
  cases hsecond

end TaintSummary
