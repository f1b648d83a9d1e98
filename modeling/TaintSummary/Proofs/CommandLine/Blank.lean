import TaintSummary.Proofs.CommandLine.Accepted

/-!
# Empty values

A selector or a namespace with an empty value counts as not given. For a command line that says: with such an option put among the
arguments of its command, it asks for the same run, or is in error for the same reason. `settings_of_blank` says when that holds, and
what happens otherwise: next to the other selector even an empty one is refused.
-/

namespace TaintSummary.CommandLine

/-- The options that count as not given when their value is empty. -/
def Opt.optional : List Opt := [.ns, .matching, .unmatched]

/-- The options that may count as not given take any text. -/
theorem Opt.takesText_of_optional {o : Opt} (h : o ∈ optional) : o.TakesText := by
  simp only [optional, List.mem_cons, List.not_mem_nil, or_false] at h
  rcases h with rfl | rfl | rfl <;> exact ⟨rfl, fun _ => rfl⟩

/-- The option with an empty value, as one argument. -/
def blank (o : Opt) : Text := "--".toList ++ o.long ++ "=".toList

namespace Scan

/-- The option is a selector, and the other selector is there. -/
inductive Contested (s : Scan) : Opt → Prop
  | matching (other : s.has .unmatched = true) : Contested s .matching
  | unmatched (other : s.has .matching = true) : Contested s .unmatched

section With

variable {o : Opt} {s t : Scan} (hw : With o [] s t) (habsent : s.has o = false)

include hw in
theorem With.has_self : t.has o = true := by
  rw [Scan.has, hw.value]
  rfl

include hw habsent in
/-- An empty value makes no difference to the values that are not empty. -/
theorem With.nonempty?_value? (x : Opt) : nonempty? (t.value? x) = nonempty? (s.value? x) := by
  by_cases hx : x = o
  · subst hx
    have hnone : s.value? x = none := has_eq_false_iff.mp habsent
    rw [hw.value, hnone]
    rfl
  · rw [hw.others x hx]

include hw in
/-- An option next to the other selector is a conflict, even when it is empty. -/
theorem With.check_of_contested (p : Place) (h : s.Contested o) : check p t = .error (.usage .conflict) := by
  have hself := hw.has_self
  cases h with
  | matching other => rw [check, if_pos ⟨hself, (hw.has (by decide)).trans other⟩]
  | unmatched other => rw [check, if_pos ⟨(hw.has (by decide)).trans other, hself⟩]

include hw habsent in
/-- The arguments are as complete, and as much in accord, as they are without the option. -/
theorem With.check_eq (p : Place) (h : ¬s.Contested o) : check p t = check p s := by
  have hboth : (t.has .matching = true ∧ t.has .unmatched = true) ↔ (s.has .matching = true ∧ s.has .unmatched = true) := by
    by_cases hmatching : o = .matching
    · subst hmatching
      have hother : s.has .unmatched = false := Bool.eq_false_iff.mpr fun other => h (.matching other)
      have hnone : t.has .unmatched = false := (hw.has (by decide)).trans hother
      simp [hother, hnone]
    · by_cases hunmatched : o = .unmatched
      · subst hunmatched
        have hother : s.has .matching = false := Bool.eq_false_iff.mpr fun other => h (.unmatched other)
        have hnone : t.has .matching = false := (hw.has (by decide)).trans hother
        simp [hother, hnone]
      · rw [hw.has (Ne.symm hmatching), hw.has (Ne.symm hunmatched)]
  simp only [check, hboth, hw.operands]

include hw habsent in
/-- The settings are those without the option. -/
theorem With.ofArguments_combine (p : Place) (before : Scan) (ho : o ∈ Opt.optional) :
    Settings.ofArguments (combine p before t) = Settings.ofArguments (combine p before s) := by
  have hsame : ∀ x, x ∉ Opt.optional → t.value? x = s.value? x := fun x hx => hw.others x fun h => hx (h ▸ ho)
  have hfilter : Filter.ofSelectors (combine p before t).selectors = Filter.ofSelectors (combine p before s).selectors := by
    simp only [Filter.ofSelectors, combine, hw.nonempty?_value? habsent]
  have hns : ∀ command, Settings.nsOf command (t.value? .ns) = Settings.nsOf command (s.value? .ns) := by
    intro command
    cases command with
    | taints => rfl
    | tolerations => exact hw.nonempty?_value? habsent .ns
  simp only [Settings.ofArguments, hfilter]
  simp only [combine, hw.operands, hns, Scan.has, hsame .kubeconfig (by decide), hsame .context (by decide),
    hsame .output (by decide), hsame .noHeaders (by decide), hsame .verbose (by decide)]

end With

/-- After the arguments no value is due, and two hyphens have not been met: an option may stand there. -/
def Free (p : Place) (args : List Text) : Prop :=
  ∀ s, steps p .empty args = .ok s → s.isAwaiting = false ∧ s.trailing = false

end Scan

section Blank

variable {lead front back : List Text} {opts s : Scan} {p : Place} {o : Opt} (optional : o ∈ Opt.optional) (allowed : o ∈ p.options)
  (free : Scan.Free p front) (misses : Scan.Misses p o .empty (front ++ back))

include optional allowed in
/-- The option with an empty value puts down the empty text. -/
theorem step_blank (hyphens : s.trailing = false) : s.step p (blank o) = s.assign o [] := by
  have hblank : blank o = '-' :: '-' :: (o.long ++ ['=']) := by
    have hhyphens : "--".toList = ['-', '-'] := by decide
    have hequals : "=".toList = ['='] := by decide
    rw [blank, hhyphens, hequals]
    rfl
  rw [hblank]
  exact Scan.step_assignment hyphens allowed (Opt.takesText_of_optional optional).takesValue []

include optional allowed in
/-- The option among the arguments is put down where it stands. -/
theorem all_blank (scanned : Scan.steps p .empty front = .ok s) (hyphens : s.trailing = false) :
    Scan.all p .empty (front ++ blank o :: back) = (s.assign o []).bind fun d => Scan.all p d back := by
  rw [Scan.all_append, scanned, ← step_blank optional allowed hyphens]
  rfl

include optional allowed free misses in
/-- Where the open option can be closed, the arguments are scanned with the option as they are without it. -/
theorem alike_blank (closes : ∀ s, Scan.steps p .empty front = .ok s → ∃ c, s.close = .ok c) :
    Scan.Alike o [] (Scan.all p .empty (front ++ back)) (Scan.all p .empty (front ++ blank o :: back)) := by
  have htakes := Opt.takesText_of_optional optional
  cases scanned : Scan.steps p .empty front with
  | error e =>
    -- neither scan comes to the place
    refine .refused e ?_ ?_ <;> rw [Scan.all_append, scanned] <;> rfl
  | ok s =>
    obtain ⟨due, hyphens⟩ := free s scanned
    obtain ⟨c, hc⟩ := closes s scanned
    have hmisses : Scan.Misses p o c back := (misses.of_append scanned).of_close due hc
    obtain ⟨d, hput, hwith⟩ := Scan.exists_put htakes hmisses []
    have hwithout : Scan.all p .empty (front ++ back) = Scan.all p c back := by
      rw [Scan.all_append, scanned]
      exact Scan.all_close due hc back
    rw [hwithout, all_blank optional allowed scanned hyphens, Scan.assign, hc]
    simp only [Except.bind, hput]
    exact Scan.alike_all htakes hwith hmisses

include optional allowed free in
/-- Where the open option cannot be closed, the arguments are not scanned with the option, and not without it. -/
theorem all_blank_of_refused {e : Stop} (back : List Text) (scanned : Scan.steps p .empty front = .ok s) (refused : s.close = .error e) :
    Scan.all p .empty (front ++ blank o :: back) = .error e ∧ ∃ e', Scan.all p .empty (front ++ back) = .error e' := by
  obtain ⟨due, hyphens⟩ := free s scanned
  constructor
  · rw [all_blank optional allowed scanned hyphens, Scan.assign, refused]
    rfl
  · rw [Scan.all_append, scanned]
    exact Scan.all_of_refused due refused p back

/-- Let an option, with an empty value, be put among the arguments of a command where an option may stand, and let it not be met in
them. When the option that is open there can be closed, and the other selector is not found, the command line comes to what it comes
to without the option, settings and errors alike. When the value of the open option is refused, the command line comes to this error,
and to an error without the option as well, though that may be one of the arguments after the place. When the other selector is found,
the command line is in error. -/
theorem settings_of_blank (leads : Leads lead opts p) (optional : o ∈ Opt.optional) (allowed : o ∈ p.options)
    (free : Scan.Free p front) (misses : Scan.Misses p o .empty (front ++ back)) :
    ((∀ s, Scan.steps p .empty front = .ok s → ∃ c, s.close = .ok c) →
        (∀ after, Scan.all p .empty (front ++ back) = .ok after → ¬after.Contested o) →
        Program.settings (lead ++ (front ++ blank o :: back)) = Program.settings (lead ++ (front ++ back))) ∧
      (∀ s e, Scan.steps p .empty front = .ok s → s.close = .error e →
        Program.settings (lead ++ (front ++ blank o :: back)) = .error e ∧
          ∃ e', Program.settings (lead ++ (front ++ back)) = .error e') ∧
      ∀ after, Scan.all p .empty (front ++ back) = .ok after → after.Contested o →
        Program.settings (lead ++ (front ++ blank o :: back)) = .error (.usage .conflict) := by
  rw [leads.settings_eq, leads.settings_eq]
  refine ⟨fun closes accord => ?_, fun s e scanned refused => ?_, fun after found contested => ?_⟩
  · rcases alike_blank optional allowed free misses closes with ⟨e, hwithout, hwith⟩ | ⟨after, after', hwithout, hwith, hw⟩
    · rw [hwithout, hwith]
    · have habsent := misses.has_eq_false hwithout
      rw [hwithout, hwith]
      simp only [Except.bind, hw.check_eq habsent p (accord after hwithout), hw.ofArguments_combine habsent p _ optional]
  · obtain ⟨hwith, e', hwithout⟩ := all_blank_of_refused optional allowed free back scanned refused
    rw [hwith, hwithout]
    exact ⟨rfl, e', rfl⟩
  · have closes : ∀ s, Scan.steps p .empty front = .ok s → ∃ c, s.close = .ok c := by
      intro s scanned
      cases hclose : s.close with
      | ok c => exact ⟨c, rfl⟩
      | error e =>
        obtain ⟨-, e', hwithout⟩ := all_blank_of_refused optional allowed free back scanned hclose
        rw [found] at hwithout
        cases hwithout
    rcases alike_blank optional allowed free misses closes with ⟨e, hwithout, -⟩ | ⟨after₁, after', hwithout, hwith, hw⟩
    · rw [found] at hwithout
      cases hwithout
    · rw [found] at hwithout
      cases hwithout
      rw [hwith]
      simp only [Except.bind, hw.check_of_contested p contested]

/-- An empty namespace among the arguments of `tolerations`. -/
theorem settings_of_blank_namespace :
    Program.settings ["tolerations".toList, "--match=key".toList, "v1".toList, "--namespace=".toList, "pods".toList] =
      Program.settings ["tolerations".toList, "--match=key".toList, "v1".toList, "pods".toList] := by
  have hleads : Leads ["tolerations".toList] .empty .tolerations := fun _ => rfl
  have hfree : Scan.Free .tolerations ["--match=key".toList, "v1".toList] := by
    rintro s ⟨⟩
    exact ⟨rfl, rfl⟩
  have hmisses : Scan.Misses .tolerations .ns .empty (["--match=key".toList, "v1".toList] ++ ["pods".toList]) :=
    Scan.misses_of_absent (Opt.takesText_of_optional (by decide)) rfl rfl
  refine (settings_of_blank hleads (by decide) (by decide) hfree hmisses).1 ?_ ?_
  · rintro s ⟨⟩
    exact ⟨_, rfl⟩
  · rintro after - ⟨⟩

/-- A selector with an expression is refused next to the other selector, though that is empty. -/
theorem not_settings_of_blank :
    ¬∀ {lead front back : List Text} {opts : Scan} {p : Place} {o : Opt}, Leads lead opts p → o ∈ Opt.optional → o ∈ p.options →
      Scan.Free p front → Scan.Misses p o .empty (front ++ back) →
        Program.settings (lead ++ (front ++ blank o :: back)) = Program.settings (lead ++ (front ++ back)) := by
  intro h
  have hleads : Leads ["taints".toList] .empty .taints := fun _ => rfl
  have hfree : Scan.Free .taints [] := by
    rintro s ⟨⟩
    exact ⟨rfl, rfl⟩
  have hmisses : Scan.Misses .taints .matching .empty ([] ++ ["--no-match=key".toList]) :=
    Scan.misses_of_absent (Opt.takesText_of_optional (by decide)) rfl rfl
  have heq := h hleads (by decide) (by decide) hfree hmisses
  have hwith : Program.settings (["taints".toList] ++ ([] ++ blank .matching :: ["--no-match=key".toList])) =
      .error (.usage .conflict) := rfl
  have hwithout : Program.settings (["taints".toList] ++ ([] ++ ["--no-match=key".toList])) =
      .ok (.ok ⟨.taints, some ⟨"key".toList, .unmatched⟩, none, none, none, .table, false, false⟩) := rfl
  rw [hwith, hwithout] at heq
  cases heq

end Blank

end TaintSummary.CommandLine
