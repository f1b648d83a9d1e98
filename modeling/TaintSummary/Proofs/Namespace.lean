import TaintSummary.Proofs.Requests
import TaintSummary.Proofs.Resolution

/-!
# What a namespace selects

A namespace is put into the path of a listing as it is written, while tokens are encoded. A request ends before the first number
sign, its path before the first question mark, and a segment before the first slash. So a namespace without these three is one segment
of the path of every request for a page, and the requests differ in their tokens only; but one with a number sign cuts off the name
of the resource type and the query, and every page is asked for as the first one (`namespace_selects`).
-/

namespace TaintSummary

open Api

namespace Api.Discovery.Answer

variable {a : Answer} {e : Entry} {ns : Text}

/-- Where the objects of an entry are listed in a namespace. -/
def pathIn (a : Answer) (e : Entry) (ns : Text) : Text := a.base e ++ "namespaces/".toList ++ ns ++ '/' :: e.name

theorem path_eq_pathIn (h : a.isNamespaced e.name = true) :
    ServedType.path ⟨a.base e, e.name, e.kind, a.isNamespaced e.name⟩ (some ns) = a.pathIn e ns := by
  rw [h]
  rfl

/-- The segments of the path: those of the base, which ends in a slash, then those of the namespace, and the name, which
holds no slash. -/
theorem pieces_pathIn (hname : '/' ∉ e.name) :
    Text.pieces '/' (a.pathIn e ns) =
      (Text.pieces '/' (a.base e)).dropLast ++ "namespaces".toList :: (Text.pieces '/' ns ++ [e.name]) := by
  obtain ⟨front, hfront⟩ : ∃ front, a.base e = front ++ ['/'] := ⟨_, rfl⟩
  have hpath : a.pathIn e ns = front ++ '/' :: ("namespaces".toList ++ '/' :: (ns ++ '/' :: e.name)) := by
    simp [pathIn, hfront]
  have hword : '/' ∉ "namespaces".toList := by decide
  have hpieces : Text.pieces '/' (a.base e) = Text.pieces '/' front ++ [[]] := by
    rw [hfront, Text.pieces_append]
    rfl
  rw [hpath, Text.pieces_append, Text.pieces_append, Text.pieces_append, Text.pieces_of_not_mem hword,
    Text.pieces_of_not_mem hname, hpieces, List.dropLast_concat]
  rfl

/-- The namespace can be told from the path. -/
theorem pathIn_injective {ns' : Text} (h : a.pathIn e ns = a.pathIn e ns') : ns = ns' := by
  unfold pathIn at h
  exact List.append_cancel_left (List.append_cancel_right h)

end Api.Discovery.Answer

namespace Cluster

/-- The requests of a run for tolerations after the one for the types of the group: those for the pages of the listing. -/
def listRequests (c : Cluster) (s : Settings) : List Text := (c.run s).requests.tail

/-- The server tells of the type that the name means, and that its objects are in namespaces. -/
structure Finds (c : Cluster) (name : Text) (a : Discovery.Answer) (e : Discovery.Entry) : Prop where
  told : c.discovered = .ok a
  meant : a.Means name e
  namespaced : a.isNamespaced e.name = true

variable {c : Cluster} {s : Settings} {apiVersion name ns : Text} {a : Discovery.Answer} {e : Discovery.Entry}

/-- The answer gives the type that is meant. -/
theorem Finds.answer_eq (h : c.Finds name a e) (apiVersion : Text) :
    Discovery.answer (.parse apiVersion name) (c.script.headD .exhausted) =
      .ok ⟨a.base e, e.name, e.kind, a.isNamespaced e.name⟩ := by
  have htold : (c.script.headD .exhausted).read Discovery.answerShape Discovery.Answer.ofJson? = .ok a := h.told
  rw [Discovery.answer, htold]
  simp only [ResourceType.parse, Discovery.Answer.served?_eq_of_means h.meant]

/-- A run that makes requests for pages makes those of the listing in the namespace. -/
theorem listRequests_eq_nil_or (command : s.command = .tolerations apiVersion name) (hns : s.ns = some ns) (h : c.Finds name a e) :
    c.listRequests s = [] ∨ c.listRequests s = (Listing.fetch ⟨a.pathIn e ns, e.name⟩ c.script.tail).requests := by
  unfold listRequests
  rw [run, command]
  cases hfilter : Summary.criterion Toleration s.filter with
  | error err => exact Or.inl (by simp only [runFor, hfilter]; rfl)
  | ok criterion =>
    cases hconnect : c.connect s with
    | error err => exact Or.inl (by simp only [runFor, hfilter, hconnect]; rfl)
    | ok =>
      have hanswer := h.answer_eq apiVersion
      have hrequests : (runFor Toleration c s).requests = (objects s c.script).requests := by
        rw [runFor_eq hfilter hconnect]
        rfl
      simp only [hrequests, objects, command, Discovery.resolve]
      by_cases hversion : (ResourceType.parse apiVersion name).groupVersion.version = []
      · exact Or.inl (by rw [if_pos hversion]; rfl)
      · rw [if_neg hversion, Exchange.ask]
        cases hparse : Target.parse (Discovery.target (ResourceType.parse apiVersion name).groupVersion) with
        | error err => exact Or.inl rfl
        | ok sent =>
          refine Or.inr ?_
          simp only [hanswer, hns, ← Discovery.Answer.path_eq_pathIn h.namespaced]
          rfl

theorem mem_listRequests (command : s.command = .tolerations apiVersion name) (hns : s.ns = some ns) (h : c.Finds name a e)
    {q : Text} (hq : q ∈ c.listRequests s) : q ∈ (Listing.fetch ⟨a.pathIn e ns, e.name⟩ c.script.tail).requests :=
  (listRequests_eq_nil_or command hns h).resolve_left (List.ne_nil_of_mem hq) ▸ hq

/-- The first request for a page is for the path as it is, when that holds no number sign. -/
theorem first_listRequest (command : s.command = .tolerations apiVersion name) (hns : s.ns = some ns) (h : c.Finds name a e)
    (hhash : '#' ∉ a.pathIn e ns) {q : Text} (hq : (c.listRequests s)[0]? = some q) :
    q = a.pathIn e ns ++ '?' :: Listing.query [] := by
  rw [(listRequests_eq_nil_or command hns h).resolve_left (List.ne_nil_of_mem (List.mem_of_getElem? hq))] at hq
  rw [Listing.eq_before_of_parse _ (Listing.parse_of_first_request _ hq)]
  exact Listing.before_target _ hhash []

end Cluster

namespace Settings

/-- What a run for tolerations in the namespace asks of a server that tells where the objects of the type are. -/
structure AsksIn (s : Settings) (name ns : Text) : Prop where
  /-- A namespace without a slash is one segment of the path of every request, as long as neither it nor what the server tells
  holds a mark that ends a path. The requests differ in their tokens only, which are those of the answers. -/
  within : ∀ (c : Cluster) (a : Discovery.Answer) (e : Discovery.Entry), c.Finds name a e → '/' ∉ ns →
    (∀ ch ∈ a.pathIn e ns, ch ≠ '?' ∧ ch ≠ '#') → c.listRequests s ≠ [] →
      Listing.Follows ⟨a.pathIn e ns, e.name⟩ c.script.tail (c.listRequests s) ∧
        ∀ q ∈ c.listRequests s, Text.before '?' q = a.pathIn e ns ∧
          Text.pieces '/' (Text.before '?' q) =
            (Text.pieces '/' (a.base e)).dropLast ++ ["namespaces".toList, ns, e.name]
  /-- Two namespaces never lead to the same first request, as long as there is no number sign. -/
  apart : ∀ (c : Cluster) (a : Discovery.Answer) (e : Discovery.Entry) (s' : Settings) (ns' q : Text), c.Finds name a e →
    s'.command = s.command → s'.ns = some ns' → '#' ∉ a.pathIn e ns → '#' ∉ a.pathIn e ns' →
      (c.listRequests s)[0]? = some q → (c.listRequests s')[0]? = some q → ns = ns'
  /-- Without a number sign the namespace stands in every request as it is written, slashes and question marks too. -/
  whole : ∀ (c : Cluster) (a : Discovery.Answer) (e : Discovery.Entry), c.Finds name a e → '#' ∉ a.pathIn e ns →
    ∀ q ∈ c.listRequests s, ∃ token, q = a.pathIn e ns ++ '?' :: Listing.query token
  /-- A request ends before a number sign in the namespace: it has no name and no query, and all requests are the same. -/
  cut : ∀ (c : Cluster) (a : Discovery.Answer) (e : Discovery.Entry), c.Finds name a e → '#' ∉ a.base e → '#' ∈ ns →
    ∀ q ∈ c.listRequests s, q = a.base e ++ "namespaces/".toList ++ Text.before '#' ns

variable {s : Settings} {apiVersion name ns : Text}

/-- Every run for tolerations in a namespace asks so: its requests are those of one listing, cut before a number sign. -/
theorem asksIn (command : s.command = .tolerations apiVersion name) (hns : s.ns = some ns) : s.AsksIn name ns := by
  constructor
  case within =>
    intro c a e hfinds hslash hplain hne
    obtain ⟨-, -, -, hsuits, -⟩ := hfinds.meant
    have hrequests := (c.listRequests_eq_nil_or command hns hfinds).resolve_left hne
    have hpath := Listing.isPathChar_of_requests ⟨a.pathIn e ns, e.name⟩ hplain (hrequests ▸ hne)
    have hfollows := Listing.follows_fetch hpath c.script.tail
    rw [hrequests]
    refine ⟨hfollows, fun q hq => ?_⟩
    have hbefore : Text.before '?' q = a.pathIn e ns :=
      hfollows.before_eq (fun hmem => (hplain '?' hmem).1 rfl) hq
    rw [hbefore, Discovery.Answer.pieces_pathIn hsuits.whole, Text.pieces_of_not_mem hslash]
    exact ⟨rfl, rfl⟩
  case apart =>
    intro c a e s' ns' q hfinds hcommand hns' hhash hhash' hq hq'
    have hfirst := Cluster.first_listRequest command hns hfinds hhash hq
    have hfirst' := Cluster.first_listRequest (hcommand.trans command) hns' hfinds hhash' hq'
    exact Discovery.Answer.pathIn_injective (List.append_cancel_right (hfirst.symm.trans hfirst'))
  case whole =>
    intro c a e hfinds hhash q hq
    obtain ⟨token, rfl⟩ := Listing.eq_before_target _ (Cluster.mem_listRequests command hns hfinds hq)
    exact ⟨token, Listing.before_target _ hhash token⟩
  case cut =>
    intro c a e hfinds hbase hhash q hq
    obtain ⟨token, rfl⟩ := Listing.eq_before_target _ (Cluster.mem_listRequests command hns hfinds hq)
    have hfront : '#' ∉ a.base e ++ "namespaces/".toList := by simp [hbase]
    have hpath : a.pathIn e ns ++ '?' :: Listing.query token =
        (a.base e ++ "namespaces/".toList) ++ (ns ++ ('/' :: e.name ++ '?' :: Listing.query token)) := by
      simp [Discovery.Answer.pathIn]
    rw [hpath, Text.before_append hfront, Text.before_append_of_mem hhash]

end Settings

/-- For every command line with a namespace that is not empty there are settings, and what the run with them asks for depends on the
namespace as its text says. -/
theorem namespace_selects {args : List Text} {a : Arguments} (h : CommandLine.parse args = .ok a) {apiVersion name ns : Text}
    (command : a.command = .tolerations apiVersion name) (given : a.ns = some ns) (hne : ns ≠ []) :
    ∃ s, Program.settings args = .ok (.ok s) ∧ s.AsksIn name ns := by
  obtain ⟨s, hsettings, hcommand, -⟩ := CommandLine.exists_settings h
  have hns : s.ns = some ns := by
    rw [Settings.ns_of_settings h hsettings command, given, nonempty?_eq_some_iff]
    exact ⟨hne, rfl⟩
  exact ⟨s, hsettings, Settings.asksIn (hcommand.trans command) hns⟩

/-- The deployments, as a server tells of them. -/
def Api.Discovery.deployments : Discovery.Entry := ⟨"deployments".toList, "Deployment".toList, none, true⟩

namespace Cluster

/-- A cluster that tells of the deployments and then has the pages. -/
def ofDeployments (pages : List Response) : Cluster :=
  ⟨none, .ofTypes "apps/v1".toList [.object [("kind".toList, .string "Deployment".toList),
    ("name".toList, .string "deployments".toList), ("namespaced".toList, .bool true)]] :: pages⟩

/-- The settings of a run for the deployments in a namespace. -/
def deploymentsIn (ns : Text) : Settings :=
  ⟨.tolerations "apps/v1".toList "deployments".toList, none, some ns, none, none, .table, false, false⟩

theorem finds_deployments (pages : List Response) :
    (ofDeployments pages).Finds "deployments".toList ⟨"apps/v1".toList, [Discovery.deployments]⟩ Discovery.deployments where
  told := Response.read_of_render rfl rfl rfl
  meant := Discovery.Answer.find?_isMeantBy_eq_some_iff.mp rfl
  namespaced := rfl

end Cluster

/-- Two pages of a namespace. -/
theorem namespace_selects_prod :
    let c := Cluster.ofDeployments [.ofItems [] "next".toList, .ofItems [] []]
    ∃ s, Program.settings ["tolerations".toList, "apps/v1".toList, "deployments".toList, "--namespace=prod".toList] =
        .ok (.ok s) ∧ s.AsksIn "deployments".toList "prod".toList ∧ (c.listRequests s).length = 2 ∧
      ∀ q ∈ c.listRequests s, Text.pieces '/' (Text.before '?' q) =
        [[], "apis".toList, "apps".toList, "v1".toList, "namespaces".toList, "prod".toList, "deployments".toList] := by
  intro c
  have hparse : CommandLine.parse
      ["tolerations".toList, "apps/v1".toList, "deployments".toList, "--namespace=prod".toList] =
      .ok ⟨.tolerations "apps/v1".toList "deployments".toList, ⟨none, none⟩, some "prod".toList, none, none, .table, false,
        false⟩ := rfl
  obtain ⟨s, hsettings, hasks⟩ := namespace_selects hparse rfl rfl (by decide)
  obtain rfl : Cluster.deploymentsIn "prod".toList = s := Except.ok.inj (Except.ok.inj hsettings)
  have hlength : (c.listRequests (Cluster.deploymentsIn "prod".toList)).length = 2 := by decide +kernel
  have hplain : "/apis/apps/v1/namespaces/prod/deployments".toList.all (fun ch => ch ≠ '?' ∧ ch ≠ '#') = true := by decide
  obtain ⟨-, hpaths⟩ := hasks.within c _ _ (Cluster.finds_deployments _) (by decide)
    (fun ch hch => of_decide_eq_true (List.all_eq_true.mp hplain ch hch)) (List.ne_nil_of_length_eq_add_one hlength)
  exact ⟨_, hsettings, hasks, hlength, fun q hq => (hpaths q hq).2⟩

/-- With a number sign in the namespace the page of a token is asked for without the token. -/
theorem Cluster.listRequests_number_sign :
    (ofDeployments [.ofItems [] "next".toList, .ofItems [] []]).listRequests (deploymentsIn "prod#1".toList) =
      ["/apis/apps/v1/namespaces/prod".toList, "/apis/apps/v1/namespaces/prod".toList] := by
  decide +kernel

/-- Not every namespace is one segment of the path: with a number sign in it the path has no name of a type. -/
theorem not_namespace_selects :
    ¬∀ (args : List Text) (a : Arguments) (apiVersion name ns : Text) (s : Settings) (c : Cluster)
      (answer : Discovery.Answer) (e : Discovery.Entry), CommandLine.parse args = .ok a →
      a.command = .tolerations apiVersion name → a.ns = some ns → ns ≠ [] → Program.settings args = .ok (.ok s) →
      c.Finds name answer e → ∀ q ∈ c.listRequests s, ∃ segment,
        '/' ∉ segment ∧ Text.before '?' q = answer.pathIn e segment := by
  intro h
  have hparse : CommandLine.parse
      ["tolerations".toList, "apps/v1".toList, "deployments".toList, "--namespace=prod#1".toList] =
      .ok ⟨.tolerations "apps/v1".toList "deployments".toList, ⟨none, none⟩, some "prod#1".toList, none, none, .table, false,
        false⟩ := rfl
  have hlisted := h _ _ _ _ _ (Cluster.deploymentsIn "prod#1".toList) _ _ _ hparse rfl rfl (by decide) rfl
    (Cluster.finds_deployments [.ofItems [] "next".toList, .ofItems [] []])
  rw [Cluster.listRequests_number_sign] at hlisted
  obtain ⟨segment, -, hpath⟩ := hlisted _ (List.mem_cons_self ..)
  -- The path of the type ends in its name; what is asked for ends in the namespace.
  have hend : (Text.before '?' "/apis/apps/v1/namespaces/prod".toList).getLast? = some 'd' := by decide
  have hname : (Discovery.Answer.pathIn ⟨"apps/v1".toList, [Discovery.deployments]⟩ Discovery.deployments segment).getLast? =
      some 's' := List.getLast?_append_of_ne_nil _ (List.cons_ne_nil _ _)
  rw [hpath, hname] at hend
  cases hend

end TaintSummary
