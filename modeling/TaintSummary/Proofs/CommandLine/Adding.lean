import TaintSummary.Program
import TaintSummary.Proofs.CommandLine.Closing

/-!
# Adding an option to a command line

`Adds` puts one more argument among those of a command, anywhere but where the value of an option is due and after two hyphens. An
option with its value that the command line has not got yet is then found, and everything else is found as before
(`parse_of_adds`), so that the settings are the same but for their filter (`settings_of_adds`).
-/

namespace TaintSummary.CommandLine

namespace Scan

/-- Each option of a place is found by its long name. -/
theorem long?_of_mem_options {p : Place} {o : Opt} (h : o ∈ p.options) : p.long? o.long = some o := by
  cases p <;> cases o <;> first | decide +kernel | exact absurd h (by decide)

/-- No long name holds an equals sign, so that the first one ends the name. -/
theorem equals_notMem_long (o : Opt) : '=' ∉ o.long := by
  cases o <;> decide +kernel

/-- An argument that begins with two hyphens is an option under its long name. -/
theorem step_long {s : Scan} (hyphens : s.trailing = false) (p : Place) {text : Text} (hne : text ≠ []) :
    s.step p ('-' :: '-' :: text) = s.long p text := by
  obtain ⟨c, rest, rfl⟩ := List.exists_cons_of_ne_nil hne
  simp [step, hyphens]

/-- An option with its value as one argument is put down once the open option is closed. -/
theorem step_assignment {p : Place} {s : Scan} {o : Opt} (hyphens : s.trailing = false) (hmem : o ∈ p.options)
    (htakes : o.takesValue = true) (value : Text) :
    s.step p ('-' :: '-' :: (o.long ++ '=' :: value)) = s.assign o value := by
  have hcut : Text.cut? '=' (o.long ++ '=' :: value) = some (o.long, value) :=
    Text.cut?_eq_some_iff.mpr ⟨rfl, equals_notMem_long o⟩
  rw [step_long hyphens p (by simp)]
  simp only [long, hcut, long?_of_mem_options hmem, htakes, if_true]

/-- The arguments up to the command are scanned without looking at those after it. -/
theorem main_eq_some {args rest : List Text} {s opts : Scan} {p : Place} (h : main s args = .ok (opts, some (p, rest))) :
    p ∈ Place.commands ∧
      ∃ lead, args = lead ++ rest ∧ ∀ rest', main s (lead ++ rest') = .ok (opts, some (p, rest')) := by
  induction args generalizing s with
  | nil =>
    obtain ⟨c, -, hend⟩ := map_eq_ok_iff.mp h
    cases hend
  | cons arg more ih =>
    -- an argument before the command is one more of those that lead up to it
    have hnext : ((s.step .main arg).bind fun s => main s more) = .ok (opts, some (p, rest)) →
        p ∈ Place.commands ∧ ∃ lead, more = lead ++ rest ∧
          ∀ rest', ((s.step .main arg).bind fun s => main s (lead ++ rest')) = .ok (opts, some (p, rest')) := by
      intro hnext
      obtain ⟨t, hstep, hmore⟩ := bind_eq_ok_iff.mp hnext
      rw [hstep]
      exact ih hmore
    rw [main] at h
    by_cases hbefore : (s.trailing || s.isAwaiting) = true
    · rw [if_pos hbefore] at h
      obtain ⟨hp, lead, rfl, hlead⟩ := hnext h
      exact ⟨hp, arg :: lead, rfl, fun rest' => by rw [List.cons_append, main, if_pos hbefore]; exact hlead rest'⟩
    · rw [if_neg hbefore] at h
      by_cases hhelp : arg = helpCommand
      · rw [if_pos hhelp] at h
        cases h
      · rw [if_neg hhelp] at h
        cases hname : Place.ofName? arg with
        | some q =>
          simp only [hname] at h
          cases h
          refine ⟨List.mem_of_find?_eq_some hname, [arg], rfl, fun rest' => ?_⟩
          rw [List.singleton_append, main, if_neg hbefore, if_neg hhelp]
          simp only [hname]
        | none =>
          simp only [hname] at h
          obtain ⟨hp, lead, rfl, hlead⟩ := hnext h
          refine ⟨hp, arg :: lead, rfl, fun rest' => ?_⟩
          rw [List.cons_append, main, if_neg hbefore, if_neg hhelp]
          simp only [hname]
          exact hlead rest'

end Scan

/-- The arguments lead up to a command: those after them are the arguments of the command, whatever they are. -/
def Leads (lead : List Text) (opts : Scan) (p : Place) : Prop :=
  ∀ rest, Scan.main .empty (lead ++ rest) = .ok (opts, some (p, rest))

/-- The arguments that lead to a place lead to one of the commands. -/
theorem Leads.mem_commands {lead : List Text} {opts : Scan} {p : Place} (h : Leads lead opts p) : p ∈ Place.commands :=
  (Scan.main_eq_some (h [])).1

/-- `args'` is the command line `args` with `arg` as one more argument of its command, not where the value of an option is due, and
not after two hyphens. -/
inductive Adds (arg : Text) : List Text → List Text → Prop
  | intro {lead front back : List Text} {opts s : Scan} {p : Place} (leads : Leads lead opts p)
      (scanned : Scan.steps p .empty front = .ok s) (due : s.isAwaiting = false) (hyphens : s.trailing = false) :
      Adds arg (lead ++ (front ++ back)) (lead ++ (front ++ arg :: back))

/-- The arguments of a command line are those of its command, put together with those before it. -/
theorem Leads.parse_eq {lead : List Text} {opts : Scan} {p : Place} (h : Leads lead opts p) (rest : List Text) :
    parse (lead ++ rest) = (Scan.all p .empty rest).bind fun after =>
      (check p after).bind fun () => opts.close.map fun before => combine p before after := by
  rw [parse, h rest]
  rfl

/-- The arguments are accepted when those after the command are, and the last option before it can be closed. -/
theorem Leads.parse_eq_ok_iff {lead rest : List Text} {opts : Scan} {p : Place} {a : Arguments} (h : Leads lead opts p) :
    parse (lead ++ rest) = .ok a ↔ ∃ after before, Scan.all p .empty rest = .ok after ∧ check p after = .ok () ∧
      opts.close = .ok before ∧ combine p before after = a := by
  rw [h.parse_eq]
  simp only [bind_eq_ok_iff, map_eq_ok_iff]
  constructor
  · rintro ⟨after, hall, ⟨⟩, hcheck, before, hclose, hcombine⟩
    exact ⟨after, before, hall, hcheck, hclose, hcombine⟩
  · rintro ⟨after, before, hall, hcheck, hclose, hcombine⟩
    exact ⟨after, hall, (), hcheck, before, hclose, hcombine⟩

/-- What a command line asks for, from the scan of the arguments of its command. -/
theorem Leads.settings_eq {lead : List Text} {opts : Scan} {p : Place} (h : Leads lead opts p) (rest : List Text) :
    Program.settings (lead ++ rest) = (Scan.all p .empty rest).bind fun after =>
      (check p after).bind fun () => opts.close.map fun before =>
        (Settings.ofArguments (combine p before after)).mapError .settings := by
  rw [Program.settings, h.parse_eq]
  cases Scan.all p .empty rest with
  | error e => rfl
  | ok after =>
    simp only [Except.bind]
    cases check p after with
    | error e => rfl
    | ok u => cases opts.close <;> rfl

/-- To every command line that can be read one more argument can be added. -/
theorem exists_adds {args : List Text} {a : Arguments} (h : parse args = .ok a) (arg : Text) : ∃ args', Adds arg args args' := by
  obtain ⟨⟨opts, command⟩, hmain, hrest⟩ := bind_eq_ok_iff.mp h
  cases command with
  | none => cases hrest
  | some found =>
    obtain ⟨p, rest⟩ := found
    obtain ⟨-, lead, rfl, hlead⟩ := Scan.main_eq_some hmain
    have hscanned : Scan.steps p .empty [] = .ok .empty := rfl
    exact ⟨_, .intro hlead hscanned rfl rfl⟩

/-- The option of a selection. -/
def selector : Selection → Opt
  | .matching => .matching
  | .unmatched => .unmatched

/-- The option of a selection with an expression, as one argument. -/
def argument (s : Selection) (expression : Text) : Text :=
  match s with
  | .matching => "--match=".toList ++ expression
  | .unmatched => "--no-match=".toList ++ expression

/-- The selectors with an expression for the selection alone. -/
def selectors (s : Selection) (expression : Text) : Selectors :=
  match s with
  | .matching => ⟨some expression, none⟩
  | .unmatched => ⟨none, some expression⟩

/-- The argument is the long name of the selector, an equals sign and the expression. -/
theorem argument_eq (s : Selection) (expression : Text) :
    argument s expression = '-' :: '-' :: ((selector s).long ++ '=' :: expression) := by
  cases s with
  | matching =>
    have hname : "--match=".toList = '-' :: '-' :: Opt.matching.long ++ ['='] := by decide +kernel
    exact (congrArg (· ++ expression) hname).trans (by simp [selector])
  | unmatched =>
    have hname : "--no-match=".toList = '-' :: '-' :: Opt.unmatched.long ++ ['='] := by decide +kernel
    exact (congrArg (· ++ expression) hname).trans (by simp [selector])

/-- Each command has both selectors. -/
theorem selector_mem_options {p : Place} (hp : p ∈ Place.commands) (s : Selection) : selector s ∈ p.options := by
  simp only [Place.commands, List.mem_cons, List.not_mem_nil, or_false] at hp
  rcases hp with rfl | rfl <;> cases s <;> decide

/-- A selector takes any text. -/
theorem takesText_selector (s : Selection) : (selector s).TakesText := by
  cases s <;> exact ⟨rfl, fun _ => rfl⟩

/-- The argument puts the option down once the open option is closed. -/
theorem step_argument {p : Place} (hp : p ∈ Place.commands) {s : Scan} (hyphens : s.trailing = false) (selection : Selection)
    (expression : Text) :
    s.step p (argument selection expression) = s.assign (selector selection) expression := by
  rw [argument_eq]
  exact Scan.step_assignment hyphens (selector_mem_options hp selection) (takesText_selector selection).takesValue expression

/-- The arguments of a command are in order when not both selectors are there and no operand is missing. -/
theorem check_eq_ok_iff {p : Place} {s : Scan} :
    check p s = .ok () ↔ ¬(s.has .matching = true ∧ s.has .unmatched = true) ∧ p.operands.length ≤ s.operands.length := by
  unfold check
  split
  · next h => simp [h]
  · next h =>
    split
    · next hfew => simp [h, Nat.not_le.mpr hfew]
    · next hfew => simp [h, Nat.not_lt.mp hfew]

/-- One selector more changes the selectors and nothing else. -/
theorem combine_of_with {p : Place} {selection : Selection} {expression : Text} {before after after' : Scan}
    (h : Scan.With (selector selection) expression after after') (hnone : (combine p before after).selectors = ⟨none, none⟩) :
    combine p before after' = { combine p before after with selectors := selectors selection expression } := by
  have hsame : ∀ o, o ≠ .matching → o ≠ .unmatched → after'.value? o = after.value? o := by
    intro o hmatching hunmatched
    exact h.others o (by cases selection <;> assumption)
  have hselectors : (⟨after'.value? .matching, after'.value? .unmatched⟩ : Selectors) = selectors selection expression := by
    obtain ⟨hmatching, hunmatched⟩ := Selectors.mk.inj hnone
    cases selection with
    | matching =>
      have hvalue : after'.value? .matching = some expression := h.value
      have hother : after'.value? .unmatched = after.value? .unmatched := h.others .unmatched (by decide)
      rw [hvalue, hother, hunmatched, selectors]
    | unmatched =>
      have hvalue : after'.value? .unmatched = some expression := h.value
      have hother : after'.value? .matching = after.value? .matching := h.others .matching (by decide)
      rw [hvalue, hother, hmatching, selectors]
  have hns : after'.value? .ns = after.value? .ns := hsame .ns (by decide) (by decide)
  have hkubeconfig : after'.value? .kubeconfig = after.value? .kubeconfig := hsame .kubeconfig (by decide) (by decide)
  have hcontext : after'.value? .context = after.value? .context := hsame .context (by decide) (by decide)
  have houtput : after'.value? .output = after.value? .output := hsame .output (by decide) (by decide)
  have hnoHeaders : after'.value? .noHeaders = after.value? .noHeaders := hsame .noHeaders (by decide) (by decide)
  have hverbose : after'.value? .verbose = after.value? .verbose := hsame .verbose (by decide) (by decide)
  simp only [combine, hselectors, h.operands, hns, hkubeconfig, hcontext, houtput, Scan.has, hnoHeaders, hverbose]

/-- Where no selector was found there is none after the command. -/
theorem has_of_selectors {p : Place} {before after : Scan} (hnone : (combine p before after).selectors = ⟨none, none⟩) :
    after.has .matching = false ∧ after.has .unmatched = false := by
  obtain ⟨hmatching, hunmatched⟩ := Selectors.mk.inj hnone
  exact ⟨Scan.has_eq_false_iff.mpr hmatching, Scan.has_eq_false_iff.mpr hunmatched⟩

/-- Arguments that are complete and without selectors are so with one selector more. -/
theorem check_of_with {p : Place} {selection : Selection} {expression : Text} {after after' : Scan}
    (h : Scan.With (selector selection) expression after after')
    (habsent : after.has .matching = false ∧ after.has .unmatched = false) (hcheck : check p after = .ok ()) :
    check p after' = .ok () := by
  refine check_eq_ok_iff.mpr ⟨?_, h.operands ▸ (check_eq_ok_iff.mp hcheck).2⟩
  rintro ⟨hmatching, hunmatched⟩
  cases selection with
  | matching =>
    have hother : after'.has .unmatched = after.has .unmatched := h.has (by decide)
    rw [hother, habsent.2] at hunmatched
    cases hunmatched
  | unmatched =>
    have hother : after'.has .matching = after.has .matching := h.has (by decide)
    rw [hother, habsent.1] at hmatching
    cases hmatching

/-- The arguments of a command are scanned with the selector as they are without it, when the selector is not among them. -/
theorem all_with_argument {p : Place} (hp : p ∈ Place.commands) {selection : Selection} {expression : Text}
    {front back : List Text} {s after : Scan} (scanned : Scan.steps p .empty front = .ok s) (due : s.isAwaiting = false)
    (hyphens : s.trailing = false) (hall : Scan.all p .empty (front ++ back) = .ok after)
    (habsent : after.has (selector selection) = false) :
    ∃ after', Scan.all p .empty (front ++ argument selection expression :: back) = .ok after' ∧
      Scan.With (selector selection) expression after after' := by
  have htakes := takesText_selector selection
  rw [Scan.all_append, scanned] at hall
  have hmisses : Scan.Misses p (selector selection) s back := Scan.misses_of_absent htakes hall habsent
  cases hc : s.close with
  | error e =>
    obtain ⟨e', he'⟩ := Scan.all_of_refused due hc p back
    rw [Except.bind, he'] at hall
    cases hall
  | ok c =>
    -- the open option is closed by the selector instead of by what comes after that
    obtain ⟨d, hput, hwith⟩ := Scan.exists_put htakes (hmisses.of_close due hc) expression
    have hstep : Scan.all p .empty (front ++ argument selection expression :: back) = Scan.all p d back := by
      rw [Scan.all_append, scanned]
      simp only [Except.bind, Scan.all, step_argument hp hyphens, Scan.assign, hc, hput]
    rw [hstep]
    rw [Except.bind, Scan.all_close due hc] at hall
    rcases Scan.alike_all htakes hwith (hmisses.of_close due hc) with ⟨e, hs, -⟩ | ⟨after₁, after', hs, ht, hw⟩
    · rw [hall] at hs
      cases hs
    · rw [hall] at hs
      cases hs
      exact ⟨after', ht, hw⟩

/-- A command line without selectors, to which one is added, has that selector, and everything else as it was. -/
theorem parse_of_adds {selection : Selection} {expression : Text} {args args' : List Text} {a : Arguments}
    (h : Adds (argument selection expression) args args') (hargs : parse args = .ok a) (hnone : a.selectors = ⟨none, none⟩) :
    parse args' = .ok { a with selectors := selectors selection expression } := by
  obtain ⟨leads, scanned, due, hyphens⟩ := h
  obtain ⟨after, before, hall, hcheck, hclose, rfl⟩ := leads.parse_eq_ok_iff.mp hargs
  have habsent := has_of_selectors hnone
  have habsent' : after.has (selector selection) = false := by
    cases selection with
    | matching => exact habsent.1
    | unmatched => exact habsent.2
  obtain ⟨after', hall', hwith⟩ := all_with_argument leads.mem_commands scanned due hyphens hall habsent'
  exact leads.parse_eq_ok_iff.mpr
    ⟨after', before, hall', check_of_with hwith habsent hcheck, hclose, combine_of_with hwith hnone⟩

/-- The settings of a command line are those of its arguments. -/
theorem settings_eq {args : List Text} {a : Arguments} {s : Settings} (h : parse args = .ok a)
    (hs : Settings.ofArguments a = .ok s) : Program.settings args = .ok (.ok s) := by
  rw [Program.settings, h]
  simp [Except.map, hs]

/-- The command line has no selector, and asks for a run with the settings. -/
def Unselected (args : List Text) (s : Settings) : Prop :=
  ∃ a, parse args = .ok a ∧ a.selectors = ⟨none, none⟩ ∧ Settings.ofArguments a = .ok s

/-- A command line without a selector is accepted. -/
theorem Unselected.settings_eq {args : List Text} {s : Settings} (h : Unselected args s) :
    Program.settings args = .ok (.ok s) := by
  obtain ⟨a, hargs, -, hs⟩ := h
  exact CommandLine.settings_eq hargs hs

theorem Unselected.filter_eq {args : List Text} {s : Settings} (h : Unselected args s) : s.filter = none := by
  obtain ⟨a, -, hnone, hs⟩ := h
  rw [Settings.ofArguments, hnone] at hs
  cases hs
  rfl

/-- With a selector whose expression is not empty the run has the filter, and the other settings as they were. -/
theorem Unselected.settings_of_adds {selection : Selection} {expression : Text} {args args' : List Text} {s : Settings}
    (h : Unselected args s) (hne : expression ≠ []) (hadds : Adds (argument selection expression) args args') :
    Program.settings args' = .ok (.ok { s with filter := some ⟨expression, selection⟩ }) := by
  obtain ⟨a, hargs, hnone, hs⟩ := h
  obtain ⟨c, rest, rfl⟩ := List.exists_cons_of_ne_nil hne
  rw [Settings.ofArguments, hnone] at hs
  cases hs
  rw [Program.settings, parse_of_adds hadds hargs hnone]
  cases selection <;> rfl

end TaintSummary.CommandLine
