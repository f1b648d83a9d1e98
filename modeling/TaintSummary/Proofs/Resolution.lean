import TaintSummary.Proofs.Api.Resolution
import TaintSummary.Proofs.Precedence

/-!
# What a run for tolerations asks for

A run for tolerations that comes so far (`Settings.Asks`) asks once which types there are. After an answer that it cannot use it
stops. Otherwise it lists the objects of the entry that the name means, under one path, and a namespace is part of that path only
where objects of the type are in namespaces (`resource_resolution`).
-/

namespace TaintSummary

open Api

namespace Cluster

/-- What the server tells of the types of a group. -/
def discovered (c : Cluster) : Except RequestError Discovery.Answer :=
  (c.script.headD .exhausted).read Discovery.answerShape Discovery.Answer.ofJson?

/-- A server that tells something has answered. -/
theorem exists_script_of_discovered {c : Cluster} {a : Discovery.Answer} (h : c.discovered = .ok a) :
    ∃ r, c.script = r :: c.script.tail ∧ r.read Discovery.answerShape Discovery.Answer.ofJson? = .ok a := by
  unfold discovered at h
  cases hscript : c.script with
  | nil =>
    rw [hscript] at h
    cases h
  | cons r rest =>
    rw [hscript] at h
    exact ⟨r, rfl, h⟩

end Cluster

namespace Settings

/-- The run is for tolerations and has a filter that can be read, if it has one, and an API version whose types can be asked for. -/
structure Asks (s : Settings) (apiVersion name : Text) : Prop where
  command : s.command = .tolerations apiVersion name
  filter : ∃ criterion, Summary.criterion Toleration s.filter = .ok criterion
  version : (GroupVersion.parse apiVersion).version ≠ []
  fits : Target.Fits (Discovery.target (.parse apiVersion))
  ordinary : ∀ ch ∈ apiVersion, Target.IsOrdinary ch

variable {s : Settings} {apiVersion name : Text} {c : Cluster} {a : Discovery.Answer} {e : Discovery.Entry}

/-- An answer that gives no type ends the run. -/
theorem Asks.run_of_answer_error (h : s.Asks apiVersion name) (connected : c.connect s = .ok ()) {err : DiscoveryError}
    (hanswer : Discovery.answer (.parse apiVersion name) (c.script.headD .exhausted) = .error err) :
    c.run s = ⟨[Discovery.target (.parse apiVersion)], 0, .error (.discovery err)⟩ := by
  obtain ⟨criterion, hfilter⟩ := h.filter
  refine Cluster.run_of_resolve_error h.command hfilter connected ?_
  rw [Discovery.resolve_eq h.version h.ordinary, if_pos h.fits, hanswer]
  rfl

/-- The run comes to the listing of the entry that the name means. -/
theorem Asks.lists (h : s.Asks apiVersion name) (connected : c.connect s = .ok ()) (hanswer : c.discovered = .ok a)
    (hmeans : a.Means name e) (hordinary : ∀ ch ∈ a.groupVersion ++ e.name ++ s.ns.getD [], Target.IsOrdinary ch) :
    c.Lists s [Discovery.target (.parse apiVersion)]
      ⟨ServedType.path ⟨a.base e, e.name, e.kind, a.isNamespaced e.name⟩ s.ns, e.name⟩ e.kind c.script.tail := by
  obtain ⟨criterion, hfilter⟩ := h.filter
  obtain ⟨r, hscript, hread⟩ := Cluster.exists_script_of_discovered hanswer
  refine .served h.command hfilter connected h.version h.fits hscript hread (Discovery.Answer.served?_eq_of_means hmeans) ?_
  intro ch hch
  simp only [List.append_assoc, List.mem_append] at hch hordinary
  exact hch.elim (h.ordinary ch) (hordinary ch)

/-- A namespace that is given makes no difference to objects that are not in namespaces. -/
theorem Asks.run_of_not_namespaced (h : s.Asks apiVersion name) (connected : c.connect s = .ok ())
    (hanswer : c.discovered = .ok a) (hmeans : a.Means name e)
    (hordinary : ∀ ch ∈ a.groupVersion ++ e.name ++ s.ns.getD [], Target.IsOrdinary ch)
    (hscope : a.isNamespaced e.name = false) : c.run s = c.run { s with ns := none } := by
  have hasks : ({ s with ns := none } : Settings).Asks apiVersion name := ⟨h.command, h.filter, h.version, h.fits, h.ordinary⟩
  have hnone : ∀ ch ∈ a.groupVersion ++ e.name ++ (none : Option Text).getD [], Target.IsOrdinary ch :=
    fun ch hch => hordinary ch (List.mem_append_left _ (by simpa using hch))
  have hlists := h.lists connected hanswer hmeans hordinary
  have hlists' := hasks.lists connected hanswer hmeans hnone
  rw [hscope] at hlists hlists'
  rw [hlists.run_eq, hlists'.run_eq]
  rfl

/-- What comes of asking for a resource type by the name, with the namespace that is given: there is one request for the types of
the group, and what follows depends on the answer to it. -/
structure Resolves (s : Settings) (apiVersion name : Text) (given : Option Text) : Prop where
  /-- An answer that is a failure or cannot be understood ends the run. -/
  failed : ∀ (c : Cluster) (e : RequestError), c.connect s = .ok () → c.discovered = .error e →
    c.run s = ⟨[Discovery.target (.parse apiVersion)], 0, .error (.discovery (.failed (.parse apiVersion) e))⟩
  /-- So does one without an entry that the name means. -/
  missing : ∀ (c : Cluster) (a : Discovery.Answer), c.connect s = .ok () → c.discovered = .ok a →
    (∀ e ∈ a.entries, ¬e.Suits name) →
      ∃ err : RunError, c.run s = ⟨[Discovery.target (.parse apiVersion)], 0, .error err⟩ ∧
        err.messages =
          ["Resource '".toList ++ name ++ "' not found in API group '".toList ++ apiVersion.withoutSlash ++ "'".toList]
  /-- Otherwise all further requests are for the objects of the first such entry, under one path. -/
  listed : ∀ (c : Cluster) (a : Discovery.Answer) (e : Discovery.Entry), c.connect s = .ok () → c.discovered = .ok a →
    a.Means name e → (∀ ch ∈ a.groupVersion ++ e.name ++ given.getD [], Target.IsOrdinary ch) →
      ∃ path qs, a.ListedAt given e path ∧ '?' ∉ path ∧
        c.Lists s [Discovery.target (.parse apiVersion)] ⟨path, e.name⟩ e.kind c.script.tail ∧
        (c.run s).requests = Discovery.target (.parse apiVersion) :: qs ∧
        ∀ q ∈ qs, q ≠ Discovery.target (.parse apiVersion) ∧ ∃ query, q = path ++ '?' :: query
  /-- The namespace makes no difference when the first entry with the name of that entry is not namespaced. -/
  unscoped : ∀ (c : Cluster) (a : Discovery.Answer) (e named : Discovery.Entry), c.connect s = .ok () →
    c.discovered = .ok a → a.Means name e → (∀ ch ∈ a.groupVersion ++ e.name ++ given.getD [], Target.IsOrdinary ch) →
      Discovery.IsFirst (·.name = e.name) a.entries named → named.namespaced = false → c.run s = c.run { s with ns := none }

theorem Asks.resolves (h : s.Asks apiVersion name) {given : Option Text} (hns : s.ns = nonempty? given) :
    s.Resolves apiVersion name given := by
  have hchars : ∀ t : Text, (∀ ch ∈ t ++ given.getD [], Target.IsOrdinary ch) →
      ∀ ch ∈ t ++ s.ns.getD [], Target.IsOrdinary ch := by
    rw [hns]
    rcases given with _ | _ | _ <;> simp [nonempty?]
  constructor
  case failed =>
    intro c e connected hanswer
    refine h.run_of_answer_error connected ?_
    rw [Cluster.discovered] at hanswer
    rw [Discovery.answer, hanswer]
    rfl
  case missing =>
    intro c a connected hanswer hmissing
    have hnone : a.served? name = none := Discovery.Answer.served?_eq_none hmissing
    refine ⟨.discovery (.notFound (.parse apiVersion name)), h.run_of_answer_error connected ?_, ?_⟩
    · rw [Cluster.discovered] at hanswer
      simp only [Discovery.answer, hanswer, ResourceType.parse, hnone]
    · rw [← GroupVersion.apiVersion_parse h.version]
      rfl
  case listed =>
    intro c a e connected hanswer hmeans hordinary
    obtain ⟨named, hnamed⟩ := hmeans.exists_named
    have hlists := h.lists connected hanswer hmeans (hchars _ hordinary)
    have hquery : ∀ t : Text, (∀ ch ∈ t, Target.isPathChar ch = true) → '?' ∉ t := by
      intro t ht hmem
      exact absurd (ht '?' hmem) (by decide)
    have htarget : '?' ∉ Discovery.target (.parse apiVersion) := hquery _ (Discovery.isPathChar_target h.ordinary)
    rw [hns] at hlists
    refine ⟨_, _, Discovery.Answer.listedAt_path given hnamed, hquery _ hlists.isPathChar, hlists, hlists.requests_eq, ?_⟩
    intro q hq
    obtain ⟨turn, -, rfl⟩ := List.mem_map.mp hq
    rw [Listing.target_eq]
    exact ⟨fun heq => htarget (by simp [← heq]), _, rfl⟩
  case unscoped =>
    intro c a e named connected hanswer hmeans hordinary hnamed hscope
    refine h.run_of_not_namespaced connected hanswer hmeans (hchars _ hordinary) ?_
    rw [Discovery.Answer.isNamespaced_eq hnamed, hscope]

/-- The namespace of a run for tolerations is the one that is given, unless that is empty. -/
theorem ns_of_settings {args : List Text} {a : Arguments} (h : CommandLine.parse args = .ok a)
    (hsettings : Program.settings args = .ok (.ok s)) (command : a.command = .tolerations apiVersion name) :
    s.ns = nonempty? a.ns := by
  rw [Program.settings, h] at hsettings
  have hok : (ofArguments a).mapError RunError.settings = .ok s := Except.ok.inj hsettings
  unfold ofArguments at hok
  cases hfilter : Filter.ofSelectors a.selectors with
  | error e =>
    rw [hfilter] at hok
    cases hok
  | ok filter =>
    rw [hfilter] at hok
    cases hok
    rw [command]
    rfl

/-- A filter whose expression can be read is read. -/
theorem exists_criterion {selectors : Selectors}
    (hexpression : ∀ expression,
      selectors.HasExpression expression ↔ ∃ selection, s.filter = some ⟨expression, selection⟩)
    (hparses : ∀ expression, selectors.HasExpression expression → ∃ t, Toleration.parse expression = .ok t) :
    ∃ criterion, Summary.criterion Toleration s.filter = .ok criterion := by
  cases hfilter : s.filter with
  | none => exact ⟨none, rfl⟩
  | some f =>
    obtain ⟨t, ht⟩ := hparses f.expression ((hexpression f.expression).mpr ⟨f.selection, hfilter⟩)
    have hparse : (Listed.parse f.expression : Except SpecifierError Toleration) = .ok t := ht
    rw [Summary.criterion, hparse]
    exact ⟨_, rfl⟩

end Settings

/-- For a command line with an API version that names a version, and with a selector that can be read, if there is one: as long as the
request for the types of the group is not too long, it is made once, and the answer to it decides what is listed. -/
theorem resource_resolution {args : List Text} {a : Arguments} (h : CommandLine.parse args = .ok a) {apiVersion name : Text}
    (command : a.command = .tolerations apiVersion name)
    (hparses : ∀ expression, a.selectors.HasExpression expression → ∃ t, Toleration.parse expression = .ok t)
    (hversion : (GroupVersion.parse apiVersion).version ≠ []) (hordinary : ∀ ch ∈ apiVersion, Target.IsOrdinary ch)
    (hfits : Target.Fits (Discovery.target (.parse apiVersion))) :
    ∃ s, Program.settings args = .ok (.ok s) ∧ s.Resolves apiVersion name a.ns := by
  obtain ⟨s, hsettings, hcommand, hexpression⟩ := CommandLine.exists_settings h
  have hasks : s.Asks apiVersion name :=
    ⟨hcommand.trans command, Settings.exists_criterion hexpression hparses, hversion, hfits, hordinary⟩
  exact ⟨s, hsettings, hasks.resolves (Settings.ns_of_settings h hsettings command)⟩

/-- The answer of a server with the types of a group. -/
def Api.Response.ofTypes (groupVersion : Text) (types : List Json) : Response :=
  ⟨200, (Json.object [("apiVersion".toList, .string "v1".toList), ("groupVersion".toList, .string groupVersion),
    ("kind".toList, .string "APIResourceList".toList), ("resources".toList, .array types)]).render⟩

/-- A kind in another case means the second of three types, the first one being a part of another and the third one having the same
name; the namespace is part of the path. -/
theorem resource_resolution_by_kind :
    let type (name : Text) (namespaced : Bool) : Json := .object [("kind".toList, .string "Deployment".toList),
      ("name".toList, .string name), ("namespaced".toList, .bool namespaced)]
    let types := [type "deployments/status".toList false, type "deployments".toList true, type "deployments".toList false]
    ∃ s, Program.settings ["tolerations".toList, "apps/v1".toList, "deployment".toList, "--namespace=prod".toList] =
        .ok (.ok s) ∧ s.Resolves "apps/v1".toList "deployment".toList (some "prod".toList) ∧
      ∃ path qs, path = "/apis/apps/v1/namespaces/prod/deployments".toList ∧
        (Cluster.run ⟨none, [.ofTypes "apps/v1".toList types]⟩ s).requests = "/apis/apps/v1".toList :: qs ∧
        ∀ q ∈ qs, ∃ query, q = path ++ '?' :: query := by
  intro type types
  have hparse : CommandLine.parse ["tolerations".toList, "apps/v1".toList, "deployment".toList, "--namespace=prod".toList] =
      .ok ⟨.tolerations "apps/v1".toList "deployment".toList, ⟨none, none⟩, some "prod".toList, none, none, .table, false,
        false⟩ := rfl
  obtain ⟨s, hsettings, hresolves⟩ := resource_resolution hparse rfl (by simp [Selectors.HasExpression]) (by decide)
    (Target.isOrdinary_of_all (by decide)) (by decide)
  let part : Discovery.Entry := ⟨"deployments/status".toList, "Deployment".toList, none, false⟩
  let deployments : Discovery.Entry := ⟨"deployments".toList, "Deployment".toList, none, true⟩
  let other : Discovery.Entry := ⟨"deployments".toList, "Deployment".toList, none, false⟩
  let answer : Discovery.Answer := ⟨"apps/v1".toList, [part, deployments, other]⟩
  have hanswer : Cluster.discovered ⟨none, [.ofTypes "apps/v1".toList types]⟩ = .ok answer :=
    Response.read_of_render rfl rfl rfl
  have hmeans : answer.Means "deployment".toList deployments :=
    Discovery.Answer.find?_isMeantBy_eq_some_iff.mp rfl
  obtain ⟨path, qs, ⟨named, hnamed, hpath⟩, -, -, hrequests, hqs⟩ :=
    hresolves.listed ⟨none, [.ofTypes "apps/v1".toList types]⟩ answer deployments rfl hanswer hmeans
      (Target.isOrdinary_of_all (by decide))
  have hscope : named.namespaced = true := (Discovery.Answer.isNamespaced_eq hnamed).symm.trans rfl
  refine ⟨s, hsettings, hresolves, path, qs, ?_, hrequests, fun q hq => (hqs q hq).2⟩
  rw [hpath, hscope]
  rfl

/-- Without the bound there need not be one request: for an API version of 65534 letters nothing is asked, whatever types the server
would tell of. -/
theorem not_resource_resolution :
    ¬∀ (args : List Text) (a : Arguments) (apiVersion name : Text), CommandLine.parse args = .ok a →
      a.command = .tolerations apiVersion name →
      (∀ expression, a.selectors.HasExpression expression → ∃ t, Toleration.parse expression = .ok t) →
      (GroupVersion.parse apiVersion).version ≠ [] → (∀ ch ∈ apiVersion, Target.IsOrdinary ch) →
      ∃ s, Program.settings args = .ok (.ok s) ∧ s.Resolves apiVersion name a.ns := by
  intro h
  have hletters : ∀ ch ∈ Cluster.longToken, ch = 'a' := fun ch hch => List.eq_of_mem_replicate hch
  have hslash : '/' ∉ Cluster.longToken := fun hmem => absurd (hletters '/' hmem) (by decide)
  have hordinary : ∀ ch ∈ Cluster.longToken, Target.IsOrdinary ch := fun ch hch => by
    rw [hletters ch hch]
    decide
  have hversion : (GroupVersion.parse Cluster.longToken).version ≠ [] := by
    rw [GroupVersion.parse_of_not_mem hslash]
    exact Cluster.longToken_ne_nil
  have hlong := Discovery.not_fits_target hslash (Nat.le_of_eq List.length_replicate.symm)
  have hparse : CommandLine.parse ["tolerations".toList, Cluster.longToken, "deployments".toList] =
      .ok ⟨.tolerations Cluster.longToken "deployments".toList, ⟨none, none⟩, none, none, none, .table, false, false⟩ := by
    obtain ⟨ch, t, ht⟩ := List.exists_cons_of_ne_nil Cluster.longToken_ne_nil
    have hch : ch = 'a' := hletters ch (by simp [ht])
    rw [ht, hch]
    rfl
  obtain ⟨s, hsettings, hresolves⟩ := h _ _ _ _ hparse rfl (by simp [Selectors.HasExpression]) hversion hordinary
  let given : Settings := ⟨.tolerations Cluster.longToken "deployments".toList, none, none, none, none, .table, false, false⟩
  have hs : given = s := by
    rw [Program.settings, hparse] at hsettings
    exact Except.ok.inj (Except.ok.inj hsettings)
  rw [← hs] at hresolves
  -- the server would tell of no types, but it is not asked
  have hanswer : Cluster.discovered ⟨none, [.ofTypes "v1".toList []]⟩ = .ok ⟨"v1".toList, []⟩ :=
    Response.read_of_render rfl rfl rfl
  obtain ⟨err, hrun, -⟩ := hresolves.missing ⟨none, [.ofTypes "v1".toList []]⟩ _ rfl hanswer (by simp)
  have hresolve := Discovery.resolve_eq hversion hordinary "deployments".toList [.ofTypes "v1".toList []]
  rw [if_neg hlong] at hresolve
  have hnothing := @Cluster.run_of_resolve_error ⟨none, [.ofTypes "v1".toList []]⟩ given _ _ none rfl rfl rfl _ _ _ hresolve
  have hrequests := congrArg Exchange.requests (hnothing.symm.trans hrun)
  exact List.cons_ne_nil _ _ hrequests.symm

end TaintSummary
