import TaintSummary.Cluster
import TaintSummary.Proofs.Api.Discovery
import TaintSummary.Proofs.Api.Fetch
import TaintSummary.Proofs.Api.Pages
import TaintSummary.Proofs.Summary

/-!
# Runs that list objects

`Cluster.Lists` says that a run comes to its listing: its filter is read, it connects, and, where it does not list the nodes, the
server tells of the resource type that is meant; any other run fails before (`lists_or_early`). From there on the run is the
listing and then the summary of what was listed (`Lists.run_eq`). The names from which the paths are made are ordinary, so that
the paths are sent as they are (`Lists.isPathChar`).
-/

namespace TaintSummary

open Api

/-- The error comes before any listing. -/
def RunError.isEarly : RunError → Bool
  | .expression .. => true
  | .connection _ => true
  | .discovery _ => true
  | _ => false

/-- A run works with the type of lists that the command summarizes. -/
theorem Settings.Summarizes.clusterRun_eq {s : Settings} {α : Type} [listed : Listed α] [decEq : DecidableEq α]
    (h : s.Summarizes α listed decEq) (c : Cluster) : c.run s = Cluster.runFor α c s := by
  cases h with
  | taints command => simp only [Cluster.run, command]
  | tolerations command => simp only [Cluster.run, command]

namespace Cluster

/-- The run with the settings comes to a listing: before it are the requests, the objects are of the kind, and the answers are left
for it. -/
inductive Lists (c : Cluster) (s : Settings) : List Text → Listing → (kind : Text) → List Response → Prop
  | nodes {criterion : Summary.Criterion Taint} (command : s.command = .taints)
      (filter : Summary.criterion Taint s.filter = .ok criterion) (connected : c.connect s = .ok ()) :
      Lists c s [] ⟨"/api/v1/nodes".toList, "nodes".toList⟩ "Node".toList c.script
  | served {apiVersion name : Text} {criterion : Summary.Criterion Toleration} {r : Response} {rest : List Response}
      {a : Discovery.Answer} {t : ServedType} (command : s.command = .tolerations apiVersion name)
      (filter : Summary.criterion Toleration s.filter = .ok criterion) (connected : c.connect s = .ok ())
      (version : (GroupVersion.parse apiVersion).version ≠ [])
      (fits : Target.Fits (Discovery.target (.parse apiVersion))) (script : c.script = r :: rest)
      (told : r.read Discovery.answerShape Discovery.Answer.ofJson? = .ok a) (meant : a.served? name = some t)
      (ordinary : ∀ ch ∈ apiVersion ++ a.groupVersion ++ t.plural ++ s.ns.getD [], Target.IsOrdinary ch) :
      Lists c s [Discovery.target (.parse apiVersion)] ⟨t.path s.ns, t.plural⟩ t.kind rest

variable {c : Cluster} {s : Settings} {before : List Text} {l : Listing} {kind : Text} {script : List Response}

/-- The path of the listing is sent as it is. -/
theorem Lists.isPathChar (h : c.Lists s before l kind script) : ∀ ch ∈ l.path, Target.isPathChar ch = true := by
  cases h with
  | nodes => exact List.all_eq_true.mp (by decide)
  | served command filter connected version fits hscript told meant ordinary =>
    intro ch hch
    refine Target.isPathChar_of_isOrdinary (Discovery.Answer.isOrdinary_path meant (fun x hx => ordinary x ?_) ch hch)
    simp only [List.append_assoc, List.mem_append] at hx ⊢
    exact Or.inr hx

/-- Once its filter is read and it is connected, a run lists objects and summarizes them. -/
theorem runFor_eq {α : Type} [Listed α] [DecidableEq α] {criterion : Summary.Criterion α}
    (filter : Summary.criterion α s.filter = .ok criterion) (connected : c.connect s = .ok ()) :
    runFor α c s = (objects s c.script).mapResult fun r =>
      r.bind fun (kind, objects) => Summary.ofFilter α s kind objects := by
  simp only [runFor, filter, connected, Summary.ofFilter]
  rfl

/-- A criterion that cannot be read is an early error. -/
theorem criterion_error {α : Type} [Listed α] {e : RunError} (h : Summary.criterion α s.filter = .error e) :
    e.isEarly = true := by
  cases hfilter : s.filter with
  | none => simp [hfilter, Summary.criterion] at h
  | some f =>
    simp only [hfilter, Summary.criterion] at h
    cases hparse : (Listed.parse f.expression : Except SpecifierError α) with
    | ok a => simp [hparse, Except.map] at h
    | error e' =>
      rw [hparse] at h
      cases h
      rfl

/-- A run reads its filter and connects, or fails early. -/
theorem runFor_early {α : Type} [Listed α] [DecidableEq α] :
    (∃ criterion, Summary.criterion α s.filter = .ok criterion ∧ c.connect s = .ok ()) ∨
      ∃ e, (runFor α c s).result = .error e ∧ e.isEarly = true := by
  cases hfilter : Summary.criterion α s.filter with
  | error e => exact Or.inr ⟨e, by rw [runFor, hfilter]; rfl, criterion_error hfilter⟩
  | ok criterion =>
    cases hconnect : c.connect s with
    | error e => exact Or.inr ⟨.connection e, by simp only [runFor, hfilter, hconnect]; rfl, rfl⟩
    | ok u => exact Or.inl ⟨criterion, rfl, rfl⟩

/-- A run ends with the type that it cannot find. -/
theorem run_of_resolve_error {apiVersion name : Text} {criterion : Summary.Criterion Toleration}
    (command : s.command = .tolerations apiVersion name) (filter : Summary.criterion Toleration s.filter = .ok criterion)
    (connected : c.connect s = .ok ()) {requests : List Text} {sleptMs : Nat} {e : DiscoveryError}
    (hresolve : Discovery.resolve (.parse apiVersion name) c.script = ⟨requests, sleptMs, .error e⟩) :
    c.run s = ⟨requests, sleptMs, .error (.discovery e)⟩ := by
  have hobjects : objects s c.script = ⟨requests, sleptMs, .error (.discovery e)⟩ := by
    simp only [objects, command, hresolve]
    rfl
  rw [run, command]
  simp only [runFor_eq filter connected, hobjects]
  rfl

/-- A resource type is resolved by the first answer, or not at all. -/
theorem resolve_cases (apiVersion name : Text) (script : List Response) :
    (∃ r rest a t, (GroupVersion.parse apiVersion).version ≠ [] ∧ Target.Fits (Discovery.target (.parse apiVersion)) ∧
      script = r :: rest ∧ r.read Discovery.answerShape Discovery.Answer.ofJson? = .ok a ∧ a.served? name = some t) ∨
    ∃ e, (Discovery.resolve (.parse apiVersion name) script).result = .error e := by
  by_cases hversion : (GroupVersion.parse apiVersion).version = []
  · exact Or.inr ⟨_, by rw [Discovery.resolve]; exact congrArg Exchange.result (if_pos hversion)⟩
  have hresolve : ¬(ResourceType.parse apiVersion name).groupVersion.version = [] := hversion
  rw [Discovery.resolve, if_neg hresolve, Exchange.ask]
  cases hparse : Target.parse (Discovery.target (.parse apiVersion)) with
  | error e => exact Or.inr ⟨_, by simp only [ResourceType.parse, hparse]; rfl⟩
  | ok sent =>
    simp only [ResourceType.parse, hparse]
    cases script with
    | nil => exact Or.inr ⟨_, rfl⟩
    | cons r rest =>
      cases hread : r.read Discovery.answerShape Discovery.Answer.ofJson? with
      | error e => exact Or.inr ⟨_, by simp only [List.headD_cons, Discovery.answer, hread]; rfl⟩
      | ok a =>
        cases hserved : a.served? name with
        | none => exact Or.inr ⟨_, by simp only [List.headD_cons, Discovery.answer, hread, hserved]; rfl⟩
        | some served => exact Or.inl ⟨r, rest, a, served, hversion, Target.fits_of_parse hparse, rfl, hread, hserved⟩

/-- A run comes to its listing or fails before, as long as the names are made of ordinary characters. -/
theorem lists_or_early (ordinary : ∀ apiVersion name r a t, s.command = .tolerations apiVersion name →
      c.script.head? = some r → r.read Discovery.answerShape Discovery.Answer.ofJson? = .ok a → a.served? name = some t →
      ∀ ch ∈ apiVersion ++ a.groupVersion ++ t.plural ++ s.ns.getD [], Target.IsOrdinary ch) :
    (∃ before l kind script, c.Lists s before l kind script) ∨
      ∃ e, (c.run s).result = .error e ∧ e.isEarly = true := by
  rw [run]
  cases command : s.command with
  | taints =>
    refine (@runFor_early c s Taint _ _).imp_left ?_
    rintro ⟨criterion, hfilter, hconnect⟩
    exact ⟨_, _, _, _, .nodes command hfilter hconnect⟩
  | tolerations apiVersion name =>
    rcases @runFor_early c s Toleration _ _ with ⟨criterion, hfilter, hconnect⟩ | hearly
    · rcases resolve_cases apiVersion name c.script with
        ⟨r, rest, a, t, hversion, hfits, hscript, hread, hserved⟩ | ⟨e, he⟩
      · exact Or.inl ⟨_, _, _, _, .served command hfilter hconnect hversion hfits hscript hread hserved
          (ordinary apiVersion name r a t command (by rw [hscript]; rfl) hread hserved)⟩
      · refine Or.inr ⟨.discovery e, ?_, rfl⟩
        simp [runFor_eq hfilter hconnect, objects, command, Exchange.mapResult, Exchange.andThen, he, Except.bind]
    · exact Or.inr hearly

/-- A run that comes to its listing is connected. -/
theorem Lists.connect_eq (h : c.Lists s before l kind script) : c.connect s = .ok () := by
  cases h with
  | nodes command filter connected => exact connected
  | served command filter connected => exact connected

/-- The objects are what is listed, and their kind is that of their type. -/
theorem Lists.objects_eq (h : c.Lists s before l kind script) :
    objects s c.script = ⟨before ++ (l.fetch script).requests, (l.fetch script).sleptMs,
      ((l.fetch script).result.mapError .listing).map (kind, ·)⟩ := by
  cases h with
  | nodes command =>
    rw [objects, command]
    rfl
  | @served apiVersion name _ r _ _ t command filter connected version fits hscript told meant ordinary =>
    have hordinary : ∀ ch ∈ apiVersion, Target.IsOrdinary ch := fun ch hch => ordinary ch (by simp [hch])
    have hresolve : Discovery.resolve (.parse apiVersion name) c.script =
        ⟨[Discovery.target (.parse apiVersion)], 0, .ok (t, script)⟩ := by
      rw [Discovery.resolve_eq version hordinary, if_pos fits, hscript]
      simp only [ResourceType.parse, Discovery.answer, told, meant, List.headD_cons, List.tail_cons]
      rfl
    simp [objects, list, command, hresolve, Exchange.mapResult, Exchange.andThen]

/-- The run summarizes the objects. -/
theorem Lists.run_eq_objects (h : c.Lists s before l kind script) :
    c.run s = (objects s c.script).mapResult fun r => r.bind fun (kind, objects) => Summary.run s kind objects := by
  cases h with
  | nodes command filter connected =>
    rw [run, command]
    simp only [runFor_eq filter connected, Summary.run, command]
  | served command filter connected =>
    rw [run, command]
    simp only [runFor_eq filter connected, Summary.run, command]

/-- The run is what comes before the listing, the listing, and the summary of what was listed. -/
theorem Lists.run_eq (h : c.Lists s before l kind script) :
    c.run s = ⟨before ++ (l.fetch script).requests, (l.fetch script).sleptMs,
      ((l.fetch script).result.mapError .listing).bind (Summary.run s kind)⟩ := by
  rw [h.run_eq_objects, h.objects_eq, Exchange.mapResult]
  cases (l.fetch script).result <;> rfl

/-- The requests are those before the listing and those of the turns of the listing. -/
theorem Lists.requests_eq (h : c.Lists s before l kind script) :
    (c.run s).requests = before ++ (l.turns script ⟨[], 0⟩).map fun t => l.target t.1.token := by
  rw [h.run_eq, Listing.fetch]
  exact congrArg (before ++ ·) (Listing.fetchFrom_requests h.isPathChar script ⟨[], 0⟩)

/-- A page whose token is too long to be asked for ends the run. -/
theorem Lists.run_of_not_fits {r : Response} (h : c.Lists s before l kind (r :: script)) {page : Page}
    (hpage : r.page = .ok page) (htoken : page.token ≠ []) (hfirst : Target.Fits (l.target []))
    (hlong : ¬Target.Fits (l.target page.token)) :
    c.run s = ⟨before ++ [l.target []], 0, .error (.listing l.tooLong)⟩ := by
  have hfetch : l.fetch (r :: script) = ⟨[l.target []], 0, .error l.tooLong⟩ := by
    have hnext : l.next? ⟨[], 0⟩ r = some ⟨page.token, 0⟩ := by
      rw [Listing.next?_of_page l hpage, if_neg htoken]
    have hend := @Listing.fetchFrom_of_not_fits l h.isPathChar script ⟨page.token, 0⟩ hlong
    have hstep := @Listing.fetchFrom_step l h.isPathChar r script ⟨[], 0⟩ _ hfirst hnext
    rw [Listing.fetch, hstep, hend, Listing.waitMs, if_neg (Response.not_isRetryable_of_page hpage)]
    rfl
  rw [h.run_eq, hfetch]
  rfl

/-- The settings of a run for the taints of all nodes. -/
def allTaints : Settings where
  command := .taints
  filter := none
  ns := none
  kubeconfig := none
  context := none
  format := .table
  noHeaders := false
  verbose := false

/-- The listing of the nodes. -/
def nodes : Listing := ⟨"/api/v1/nodes".toList, "nodes".toList⟩

/-- A run for the taints of all nodes lists the nodes, with nothing before. -/
theorem lists_nodes (script : List Response) :
    Lists ⟨none, script⟩ allTaints [] nodes "Node".toList script :=
  .nodes rfl rfl rfl

/-- A token with as many characters as a target may have. -/
def longToken : Text := List.replicate Target.sizeLimit 'a'

theorem longToken_ne_nil : longToken ≠ [] := by
  rw [longToken, Target.sizeLimit, List.replicate_succ]
  exact List.cons_ne_nil _ _

/-- The page of the long token cannot be asked for, so that a page with it ends a run. -/
theorem run_longToken {r : Response} (rest : List Response) {objects : List Object} (h : r.page = .ok ⟨objects, longToken⟩) :
    run ⟨none, r :: rest⟩ allTaints = ⟨[nodes.target []], 0, .error (.listing nodes.tooLong)⟩ := by
  refine (lists_nodes (r :: rest)).run_of_not_fits h longToken_ne_nil (by decide) (Target.not_fits_of_length ?_)
  have := nodes.length_lt_length_target longToken
  rwa [longToken, List.length_replicate] at this

end Cluster

end TaintSummary
