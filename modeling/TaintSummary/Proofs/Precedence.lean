import TaintSummary.Proofs.Cluster
import TaintSummary.Proofs.CommandLine.Accepted
import TaintSummary.Proofs.GroupVersion

/-!
# What is checked first

The expression of a selector is read before anything is asked for and before any object is looked at, and an API version is looked
at before anything is asked for. So a run for which one of them is wrong asks nothing, and its error depends neither on the answers
that it would get nor on the objects (`refused_before_requests`).
-/

namespace TaintSummary

/-- The expression is no specifier of what the command summarizes, for the reason. -/
inductive Command.Refuses : Command → Text → SpecifierError → Prop
  | taint {expression : Text} {e : SpecifierError} (refused : Taint.parse expression = .error e) :
      Refuses .taints expression e
  | toleration {apiVersion name expression : Text} {e : SpecifierError} (refused : Toleration.parse expression = .error e) :
      Refuses (.tolerations apiVersion name) expression e

/-- Nothing is asked and nothing is waited for before the error. -/
structure FailsAtOnce {ε α : Type} (x : Api.Exchange ε α) (e : ε) : Prop where
  requests : x.requests = []
  sleptMs : x.sleptMs = 0
  result : x.result = .error e

theorem failsAtOnce_pure {ε α : Type} (e : ε) : FailsAtOnce (.pure (.error e) : Api.Exchange ε α) e := ⟨rfl, rfl, rfl⟩

namespace Settings

variable {s : Settings} {expression : Text} {e : SpecifierError}

/-- The error of the expression is the error of the criterion. -/
theorem Summarizes.criterion_of_refuses {α : Type} [listed : Listed α] [decEq : DecidableEq α]
    (h : s.Summarizes α listed decEq) (hrefuses : s.command.Refuses expression e) (selection : Selection) :
    Summary.criterion α (some ⟨expression, selection⟩) = .error (.expression expression e) := by
  have hparse : (Listed.parse expression : Except SpecifierError α) = .error e := by
    cases h with
    | taints command =>
      rw [command] at hrefuses
      cases hrefuses with
      | taint refused => exact refused
    | tolerations command =>
      rw [command] at hrefuses
      cases hrefuses with
      | toleration refused => exact refused
  rw [Summary.criterion, hparse]
  rfl

/-- The expression is the error of every run, whatever the server answers and whatever is to be summarized. -/
structure FailsOnExpression (s : Settings) (expression : Text) (e : SpecifierError) : Prop where
  cluster : ∀ c : Cluster, FailsAtOnce (c.run s) (.expression expression e)
  summary : ∀ kind objects, Summary.run s kind objects = .error (.expression expression e)
  messages : (RunError.expression expression e).messages =
    ["Invalid match expression '".toList ++ expression ++ "'".toList, e.message]

/-- An expression that the command refuses is the error of every run, before anything else. -/
theorem failsOnExpression_of_refuses {selection : Selection} (hfilter : s.filter = some ⟨expression, selection⟩)
    (hrefuses : s.command.Refuses expression e) : s.FailsOnExpression expression e := by
  obtain ⟨α, _, _, hs⟩ := s.exists_summarizes
  have hcriterion : Summary.criterion α s.filter = .error (.expression expression e) := by
    rw [hfilter]
    exact hs.criterion_of_refuses hrefuses selection
  constructor
  case cluster =>
    intro c
    rw [hs.clusterRun_eq, Cluster.runFor, hcriterion]
    exact failsAtOnce_pure _
  case summary =>
    intro kind objects
    rw [hs.run_eq, Summary.ofFilter, hcriterion]
    rfl
  case messages => rfl

/-- A run for tolerations fails without a request, with an error that depends on the kubeconfig alone; when the run connects it is
that there is no version. -/
structure FailsOnVersion (s : Settings) (name : Text) : Prop where
  cluster : ∀ kubeconfig : Option Kubeconfig, ∃ e, ∀ script, FailsAtOnce (Cluster.run ⟨kubeconfig, script⟩ s) e
  connected : ∀ c : Cluster, c.connect s = .ok () → (c.run s).result = .error (.discovery (.noVersion name))

/-- A run that connects looks at the API version next. -/
theorem run_of_noVersion {c : Cluster} {apiVersion name : Text} {criterion : Summary.Criterion Toleration}
    (command : s.command = .tolerations apiVersion name) (filter : Summary.criterion Toleration s.filter = .ok criterion)
    (version : (GroupVersion.parse apiVersion).version = []) (connected : c.connect s = .ok ()) :
    c.run s = .pure (.error (.discovery (.noVersion name))) := by
  have hresolve : Api.Discovery.resolve (.parse apiVersion name) c.script = .pure (.error (.noVersion name)) := if_pos version
  exact Cluster.run_of_resolve_error command filter connected hresolve

/-- A type without a version is the error of a run that connects, before anything is asked for. -/
theorem failsOnVersion {apiVersion name : Text} {criterion : Summary.Criterion Toleration}
    (command : s.command = .tolerations apiVersion name) (filter : Summary.criterion Toleration s.filter = .ok criterion)
    (version : (GroupVersion.parse apiVersion).version = []) : s.FailsOnVersion name := by
  constructor
  case cluster =>
    intro kubeconfig
    -- whether a run connects depends on the kubeconfig and not on the answers
    have hconnect : ∀ script, (⟨kubeconfig, script⟩ : Cluster).connect s = (⟨kubeconfig, []⟩ : Cluster).connect s :=
      fun _ => rfl
    cases hfirst : (⟨kubeconfig, []⟩ : Cluster).connect s with
    | error e =>
      refine ⟨.connection e, fun script => ?_⟩
      rw [Cluster.run, command]
      simp only [Cluster.runFor, filter, hconnect script, hfirst]
      exact failsAtOnce_pure _
    | ok u =>
      refine ⟨.discovery (.noVersion name), fun script => ?_⟩
      rw [run_of_noVersion command filter version ((hconnect script).trans hfirst)]
      exact failsAtOnce_pure _
  case connected =>
    intro c hc
    rw [run_of_noVersion command filter version hc]
    rfl

end Settings

/-- For a command line that can be read: when the expression of a selector is refused, no run asks for anything or looks at an object,
and the expression is always the error. When it is accepted or missing, but the API version is empty, ends with a slash or has more
than one, no run asks for anything either, and the error does not depend on what the server would answer. -/
theorem refused_before_requests {args : List Text} {a : Arguments} (h : CommandLine.parse args = .ok a) :
    (∀ expression e, a.selectors.HasExpression expression → a.command.Refuses expression e →
        ∃ s, Program.settings args = .ok (.ok s) ∧ s.FailsOnExpression expression e) ∧
      ∀ apiVersion name, a.command = .tolerations apiVersion name →
        (∀ expression, a.selectors.HasExpression expression → ∃ t, Toleration.parse expression = .ok t) →
        (apiVersion = [] ∨ apiVersion.getLast? = some '/' ∨ 2 ≤ apiVersion.count '/') →
          ∃ s, Program.settings args = .ok (.ok s) ∧ s.FailsOnVersion name := by
  obtain ⟨s, hsettings, hcommand, hexpression⟩ := CommandLine.exists_settings h
  constructor
  · intro expression e hhas hrefuses
    obtain ⟨selection, hfilter⟩ := (hexpression expression).mp hhas
    exact ⟨s, hsettings, Settings.failsOnExpression_of_refuses hfilter (hcommand ▸ hrefuses)⟩
  · intro apiVersion name htolerations hparses hversion
    obtain ⟨criterion, hcriterion⟩ : ∃ criterion, Summary.criterion Toleration s.filter = .ok criterion := by
      cases hfilter : s.filter with
      | none => exact ⟨none, rfl⟩
      | some f =>
        obtain ⟨t, ht⟩ := hparses f.expression ((hexpression f.expression).mpr ⟨f.selection, hfilter⟩)
        have hparse : (Listed.parse f.expression : Except SpecifierError Toleration) = .ok t := ht
        exact ⟨some (t, f.selection), by rw [Summary.criterion, hparse]; rfl⟩
    exact ⟨s, hsettings, Settings.failsOnVersion (hcommand.trans htolerations) hcriterion
      (GroupVersion.version_parse_eq_nil_iff.mpr hversion)⟩

/-- An effect that there is not, for the nodes, and an API version that ends with a slash, with an expression that is accepted. -/
theorem refused_before_requests_two_lines :
    (∃ s, Program.settings ["taints".toList, "--match=ssd:Never".toList] = .ok (.ok s) ∧
        s.FailsOnExpression "ssd:Never".toList (.invalidEffect "Never".toList)) ∧
      ∃ s, Program.settings ["tolerations".toList, "apps/".toList, "deployments".toList, "--no-match=Exists(ssd)".toList] =
          .ok (.ok s) ∧ s.FailsOnVersion "deployments".toList := by
  have hnodes : CommandLine.parse ["taints".toList, "--match=ssd:Never".toList] =
      .ok ⟨.taints, ⟨some "ssd:Never".toList, none⟩, none, none, none, .table, false, false⟩ := rfl
  have hworkloads : CommandLine.parse
      ["tolerations".toList, "apps/".toList, "deployments".toList, "--no-match=Exists(ssd)".toList] =
      .ok ⟨.tolerations "apps/".toList "deployments".toList, ⟨none, some "Exists(ssd)".toList⟩, none, none, none, .table,
        false, false⟩ := rfl
  constructor
  · have hhas : Selectors.HasExpression ⟨some "ssd:Never".toList, none⟩ "ssd:Never".toList := ⟨by decide, Or.inl rfl⟩
    exact (refused_before_requests hnodes).1 _ _ hhas (.taint rfl)
  · refine (refused_before_requests hworkloads).2 _ _ rfl (fun expression hhas => ?_) (Or.inr (Or.inl (by decide)))
    obtain ⟨-, hmatching | hunmatched⟩ := hhas
    · cases hmatching
    · cases hunmatched
      exact ⟨_, rfl⟩

end TaintSummary
