import TaintSummary.Proofs.Cluster
import TaintSummary.Proofs.ListingOrder

/-!
# Pages make no difference

A server may cut what it lists into pages as it likes, and may fail to deliver a page for a while. A `Delivery` is a page with the
failures before it. Whatever the deliveries, what may come of a run is what may come of the summary of all objects in the order in
which they came (`run_refines_summary`), as it would be if the objects were at hand.
-/

namespace TaintSummary

open Api

/-- A page as it is delivered: after at most two failures that may pass. -/
structure Delivery where
  failures : List Response
  answer : Response
  page : Page
  few : failures.length ≤ 2
  passing : ∀ r ∈ failures, r.IsRetryable
  isPage : answer.page = .ok page

namespace Delivery

/-- The answers in their order. -/
def answers (d : Delivery) : List Response := d.failures ++ [d.answer]

/-- A node with the name. -/
def node (name : Text) : Json := .object [("metadata".toList, .object [("name".toList, .string name)])]

/-- A page with one node, delivered after so many failures of status 503. -/
def ofNode (name token : Text) (failures : Nat) (few : failures ≤ 2) : Delivery where
  failures := List.replicate failures ⟨503, []⟩
  answer := .ofItems [node name] token
  page := ⟨[⟨[], name, node name⟩], token⟩
  few := by rwa [List.length_replicate]
  passing := by
    intro r hr
    rw [List.eq_of_mem_replicate hr]
    decide +kernel
  isPage := Response.page_ofItems token rfl rfl rfl

/-- The objects of the answer are those of its page. -/
theorem objects_answer (d : Delivery) : d.answer.objects = d.page.objects := by
  rw [Response.objects, d.isPage]

end Delivery

/-- A failure holds no objects. -/
theorem Api.Response.IsRetryable.objects {r : Response} (h : r.IsRetryable) : r.objects = [] := by
  rw [Response.objects, Response.page_of_isFailure h.1]

namespace Api.Listing

variable {l : Listing} (hpath : ∀ c ∈ l.path, Target.isPathChar c = true)
include hpath

/-- Failures that may pass change nothing as long as they are too few to give up. -/
theorem fetchFrom_failures {failures rest : List Response} {a : Attempt} (hfits : Target.Fits (l.target a.token))
    (hr : ∀ r ∈ failures, r.IsRetryable) (hfew : a.failures + failures.length < attemptLimit) :
    (l.fetchFrom (failures ++ rest) a.failures a.token).result =
      (l.fetchFrom rest (a.failures + failures.length) a.token).result := by
  induction failures generalizing a with
  | nil => rfl
  | cons r failures ih =>
    have hretry := hr r (by simp)
    rw [List.length_cons] at hfew
    have hlt : a.failures + 1 < attemptLimit := by omega
    have hnext : l.next? a r = some ⟨a.token, a.failures + 1⟩ := by rw [next?_of_isRetryable l hretry, if_pos hlt]
    have hrest := @ih ⟨a.token, a.failures + 1⟩ hfits (fun x hx => hr x (List.mem_cons_of_mem r hx))
      (by simp only; omega)
    have hcount : a.failures + 1 + failures.length = a.failures + (failures.length + 1) := by omega
    rw [List.cons_append, fetchFrom_step hpath hfits hnext, hretry.objects, hrest, hcount, List.length_cons]
    cases (l.fetchFrom rest (a.failures + (failures.length + 1)) a.token).result <;> rfl

/-- A delivery is its page. -/
theorem fetchFrom_delivery {d : Delivery} {rest : List Response} {token : Text} (hfits : Target.Fits (l.target token)) :
    (l.fetchFrom (d.answers ++ rest) 0 token).result =
      if d.page.token = [] then .ok d.page.objects
      else (l.fetchFrom rest 0 d.page.token).result.map (d.page.objects ++ ·) := by
  have hfew : 0 + d.failures.length < attemptLimit := by
    have := d.few
    rw [attemptLimit]
    omega
  rw [Delivery.answers, List.append_assoc]
  refine (@fetchFrom_failures l hpath d.failures _ ⟨token, 0⟩ hfits d.passing hfew).trans ?_
  have hcons := @fetchFrom_cons l hpath d.answer rest ⟨token, 0 + d.failures.length⟩ hfits
  rw [next?_of_page l d.isPage] at hcons
  rw [List.singleton_append, hcons]
  by_cases ht : d.page.token = []
  · simp [ht, ending, d.isPage, d.objects_answer, Except.map]
  · simp [ht, d.objects_answer]

/-- The deliveries are their objects: every one but the last has a token, and the requests are not too long. -/
theorem fetchFrom_deliveries {pages : List Delivery} {last : Delivery} {rest : List Response} {token : Text}
    (hfits : Target.Fits (l.target token)) (hmore : ∀ d ∈ pages, d.page.token ≠ [])
    (hlast : last.page.token = []) (hall : ∀ d ∈ pages, Target.Fits (l.target d.page.token)) :
    (l.fetchFrom (pages.flatMap Delivery.answers ++ last.answers ++ rest) 0 token).result =
      .ok ((pages ++ [last]).flatMap fun d => d.page.objects) := by
  induction pages generalizing token with
  | nil =>
    rw [List.flatMap_nil, List.nil_append, fetchFrom_delivery hpath hfits, if_pos hlast]
    simp
  | cons d pages ih =>
    have hrest := ih (hall d (by simp)) (fun x hx => hmore x (List.mem_cons_of_mem d hx))
      fun x hx => hall x (List.mem_cons_of_mem d hx)
    rw [List.flatMap_cons, List.append_assoc, List.append_assoc, fetchFrom_delivery hpath hfits,
      if_neg (hmore d (by simp)), ← List.append_assoc, hrest]
    rfl

end Api.Listing

namespace Cluster

/-- What may come of a run: a text that may be printed for the objects that it gets, or the error. -/
def MayEnd (c : Cluster) (s : Settings) : Except RunError Text → Prop
  | .ok text => c.connect s = .ok () ∧ ∃ kind objects,
      (Cluster.objects s c.script).result = .ok (kind, objects) ∧ Summary.MayPrint s kind objects text
  | .error e => (c.run s).result = .error e

/-- The run comes to what the summary of the objects comes to. -/
structure Refines (c : Cluster) (s : Settings) (kind : Text) (objects : List Object) : Prop where
  /-- The same may come of both, whatever the order in which the resources are visited. -/
  outcomes : ∀ outcome, c.MayEnd s outcome ↔ Summary.MayEnd s kind objects outcome
  /-- The run ends, and in one of these ways. -/
  ends : c.MayEnd s (c.run s).result
  /-- Nothing else may come of it, and it is the summary, when an object cannot be read, or when no two have the same sort key. -/
  single : (∃ e, Summary.run s kind objects = .error e) ∨ (objects.map s.sortKey).Nodup →
    (c.run s).result = Summary.run s kind objects ∧ ∀ outcome, c.MayEnd s outcome → outcome = (c.run s).result

variable {c : Cluster} {s : Settings} {before : List Text} {l : Listing} {kind : Text} {script : List Response}
  {objects : List Object}

/-- A run that prints something is connected, gets its objects and summarizes them. -/
theorem exists_summary_of_run {text : Text} (h : (c.run s).result = .ok text) :
    c.connect s = .ok () ∧ ∃ kind objects, (Cluster.objects s c.script).result = .ok (kind, objects) ∧
      Summary.run s kind objects = .ok text := by
  obtain ⟨α, _, _, hs⟩ := s.exists_summarizes
  simp only [hs.run_eq]
  rw [hs.clusterRun_eq] at h
  rcases @runFor_early c s α _ _ with ⟨criterion, hfilter, hconnect⟩ | ⟨e, he, -⟩
  · rw [runFor_eq hfilter hconnect] at h
    obtain ⟨⟨kind, objects⟩, hobjects, hsummary⟩ := bind_eq_ok_iff.mp h
    exact ⟨hconnect, kind, objects, hobjects, hsummary⟩
  · rw [he] at h
    cases h

/-- Whatever the run is, it ends in one of the ways in which it may end. -/
theorem mayEnd_run (c : Cluster) (s : Settings) : c.MayEnd s (c.run s).result := by
  cases hrun : (c.run s).result with
  | error e => exact hrun
  | ok text =>
    obtain ⟨hconnect, kind, objects, hobjects, hsummary⟩ := exists_summary_of_run hrun
    exact ⟨hconnect, kind, objects, hobjects, Summary.mayPrint_of_run hsummary⟩

/-- A run that lists objects gives their summary. -/
theorem Lists.run_eq_summary (h : c.Lists s before l kind script) (hfetch : (l.fetch script).result = .ok objects) :
    (c.run s).result = Summary.run s kind objects := by
  rw [h.run_eq, hfetch]
  rfl

/-- Of a run that lists objects may come what may come of their summary. -/
theorem Lists.mayEnd_iff (h : c.Lists s before l kind script) (hfetch : (l.fetch script).result = .ok objects)
    (outcome : Except RunError Text) : c.MayEnd s outcome ↔ Summary.MayEnd s kind objects outcome := by
  cases outcome with
  | error e =>
    rw [MayEnd, h.run_eq_summary hfetch]
    rfl
  | ok text =>
    have hobjects : (Cluster.objects s c.script).result = .ok (kind, objects) := by
      rw [h.objects_eq, hfetch]
      rfl
    constructor
    · rintro ⟨-, kind', objects', hobjects', hprint⟩
      rw [hobjects] at hobjects'
      cases hobjects'
      exact hprint
    · exact fun hprint => ⟨h.connect_eq, kind, objects, hobjects, hprint⟩

/-- A run that lists objects comes to what their summary comes to. -/
theorem Lists.refines (h : c.Lists s before l kind script) (hfetch : (l.fetch script).result = .ok objects) :
    c.Refines s kind objects where
  outcomes := h.mayEnd_iff hfetch
  ends := c.mayEnd_run s
  single := by
    intro hsingle
    refine ⟨h.run_eq_summary hfetch, fun outcome houtcome => ?_⟩
    rw [h.run_eq_summary hfetch]
    exact Summary.eq_run_of_mayEnd hsingle ((h.mayEnd_iff hfetch outcome).mp houtcome)

end Cluster

/-- However the listed objects are cut into pages, whatever failures come before a page and whatever the server has to say after
the last one: if no request is too long to be sent, the run comes to what the summary of all objects in their order comes to, be it
one of the texts that may be printed for them or the error of an object that cannot be read. -/
theorem run_refines_summary {c : Cluster} {s : Settings} {before : List Text} {l : Listing} {kind : Text}
    {pages : List Delivery} {last : Delivery} {rest : List Response}
    (h : c.Lists s before l kind (pages.flatMap Delivery.answers ++ last.answers ++ rest))
    (hmore : ∀ d ∈ pages, d.page.token ≠ []) (hlast : last.page.token = [])
    (hfirst : Target.Fits (l.path ++ "?&limit=500".toList))
    (hfits : ∀ d ∈ pages, Target.Fits
      (l.path ++ "?&limit=500".toList ++ "&continue=".toList ++ FormEncoding.encode d.page.token)) :
    c.Refines s kind ((pages ++ [last]).flatMap fun d => d.page.objects) := by
  have hall : ∀ d ∈ pages, Target.Fits (l.target d.page.token) := by
    intro d hd
    rw [Listing.target_of_ne_nil l (hmore d hd)]
    exact hfits d hd
  rw [← Listing.target_nil] at hfirst
  exact h.refines (Listing.fetchFrom_deliveries h.isPathChar hfirst hmore hlast hall)

/-- Two pages with a node each, the first after two failures and the second after one. -/
theorem run_refines_summary_two_nodes :
    let first := Delivery.ofNode "a".toList "next".toList 2 (by decide)
    let last := Delivery.ofNode "b".toList [] 1 (by decide)
    Cluster.Refines ⟨none, first.answers ++ last.answers⟩ Cluster.allTaints "Node".toList
      [⟨[], "a".toList, Delivery.node "a".toList⟩, ⟨[], "b".toList, Delivery.node "b".toList⟩] := by
  intro first last
  exact @run_refines_summary ⟨none, first.answers ++ last.answers⟩ _ _ _ _ [first] last [] (.nodes rfl rfl rfl)
    (by simp [first, Delivery.ofNode]) rfl (by decide) (by simp only [first, Delivery.ofNode]; decide)

/-- Without the bound on the requests it need not: the page of a token of 65534 letters is never asked for, and the run fails. -/
theorem not_run_refines_summary :
    ¬∀ (c : Cluster) (s : Settings) (before : List Text) (l : Listing) (kind : Text) (pages : List Delivery)
      (last : Delivery) (rest : List Response),
      c.Lists s before l kind (pages.flatMap Delivery.answers ++ last.answers ++ rest) →
      (∀ d ∈ pages, d.page.token ≠ []) → last.page.token = [] →
      c.Refines s kind ((pages ++ [last]).flatMap fun d => d.page.objects) := by
  intro h
  let first := Delivery.ofNode "a".toList Cluster.longToken 0 (by decide)
  let last := Delivery.ofNode "b".toList [] 0 (by decide)
  have hrefines := h ⟨none, first.answers ++ last.answers⟩ Cluster.allTaints [] Cluster.nodes "Node".toList [first] last []
    (Cluster.lists_nodes _) (by simp [first, Delivery.ofNode, Cluster.longToken_ne_nil]) rfl
  have hlong : (Cluster.run ⟨none, first.answers ++ last.answers⟩ Cluster.allTaints).result = .error _ :=
    congrArg Exchange.result (Cluster.run_longToken last.answers first.isPage)
  have hsummary : ∃ text, Summary.run Cluster.allTaints "Node".toList
      (([first] ++ [last]).flatMap fun d => d.page.objects) = .ok text := ⟨_, rfl⟩
  obtain ⟨text, htext⟩ := hsummary
  -- the run may fail, which the summary may not
  have hfails := (hrefines.outcomes (.error _)).mp hlong
  rw [Summary.MayEnd, htext] at hfails
  cases hfails

end TaintSummary
