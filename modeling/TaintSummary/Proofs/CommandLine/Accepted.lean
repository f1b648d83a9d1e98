import TaintSummary.Proofs.CommandLine.Adding

/-!
# Command lines that are accepted

A command line that can be read has the arguments of a command and those before it, in accord with each other
(`exists_leads_of_parse`). It never has both selectors, and so there are always settings for it (`settings_never_conflict`).
-/

namespace TaintSummary

namespace CommandLine

/-- The arguments of a command line are those before its command and those after it, all of them complete and in accord. -/
theorem exists_leads_of_parse {args : List Text} {a : Arguments} (h : parse args = .ok a) :
    ∃ lead opts p rest after before, Leads lead opts p ∧ args = lead ++ rest ∧ Scan.all p .empty rest = .ok after ∧
      check p after = .ok () ∧ opts.close = .ok before ∧ combine p before after = a := by
  obtain ⟨⟨opts, command⟩, hmain, hrest⟩ := bind_eq_ok_iff.mp h
  cases command with
  | none => cases hrest
  | some found =>
    obtain ⟨p, rest⟩ := found
    obtain ⟨-, lead, rfl, hlead⟩ := Scan.main_eq_some hmain
    have hleads : Leads lead opts p := hlead
    obtain ⟨after, before, hall, hcheck, hclose, hcombine⟩ := hleads.parse_eq_ok_iff.mp h
    exact ⟨lead, opts, p, rest, after, before, hleads, rfl, hall, hcheck, hclose, hcombine⟩

/-- At most one selector is given. -/
theorem not_both_selectors {args : List Text} {a : Arguments} (h : parse args = .ok a) :
    a.selectors.matching = none ∨ a.selectors.unmatched = none := by
  obtain ⟨-, -, p, -, after, before, -, -, -, hcheck, -, rfl⟩ := exists_leads_of_parse h
  have hboth := (check_eq_ok_iff.mp hcheck).1
  change after.value? .matching = none ∨ after.value? .unmatched = none
  by_cases hmatching : after.has .matching = true
  · have hnone : after.has .unmatched = false := Bool.eq_false_iff.mpr fun hunmatched => hboth ⟨hmatching, hunmatched⟩
    exact Or.inr (Scan.has_eq_false_iff.mp hnone)
  · exact Or.inl (Scan.has_eq_false_iff.mp (Bool.eq_false_iff.mpr hmatching))

end CommandLine

/-- A value counts as given when it is not empty. -/
theorem nonempty?_eq_some_iff {o : Option Text} {t : Text} : nonempty? o = some t ↔ t ≠ [] ∧ o = some t := by
  rcases o with _ | (_ | ⟨c, rest⟩)
  · simp [nonempty?]
  · simp [nonempty?, eq_comm]
  · simp only [nonempty?, Option.some.injEq]
    constructor
    · rintro rfl
      exact ⟨List.cons_ne_nil c rest, rfl⟩
    · exact And.right

namespace Filter

/-- With the first selector alone its expression is the filter, if it is not empty. -/
theorem ofSelectors_matching (expression : Option Text) :
    ofSelectors ⟨expression, none⟩ = .ok ((nonempty? expression).map (⟨·, .matching⟩)) := by
  unfold ofSelectors
  cases nonempty? expression <;> rfl

/-- With the second selector alone its expression is the filter, if it is not empty. -/
theorem ofSelectors_unmatched (expression : Option Text) :
    ofSelectors ⟨none, expression⟩ = .ok ((nonempty? expression).map (⟨·, .unmatched⟩)) := by
  unfold ofSelectors
  cases nonempty? expression <;> rfl

end Filter

namespace Selectors

/-- The expression of the selector. -/
def expression? (s : Selectors) : Selection → Option Text
  | .matching => s.matching
  | .unmatched => s.unmatched

/-- A selector has the expression, and that is not empty. -/
def HasExpression (s : Selectors) (expression : Text) : Prop :=
  expression ≠ [] ∧ (s.matching = some expression ∨ s.unmatched = some expression)

/-- An expression that counts is that of one of the selectors. -/
theorem hasExpression_iff {s : Selectors} {expression : Text} :
    s.HasExpression expression ↔ ∃ selection, expression ≠ [] ∧ s.expression? selection = some expression := by
  constructor
  · rintro ⟨hne, hmatching | hunmatched⟩
    · exact ⟨.matching, hne, hmatching⟩
    · exact ⟨.unmatched, hne, hunmatched⟩
  · rintro ⟨_ | _, hne, hexpression⟩
    · exact ⟨hne, Or.inl hexpression⟩
    · exact ⟨hne, Or.inr hexpression⟩

end Selectors

/-- With at most one selector there is a filter exactly when that has an expression: with the expression, and for what it selects. -/
theorem Filter.exists_ofSelectors {s : Selectors} (h : s.matching = none ∨ s.unmatched = none) :
    ∃ filter, ofSelectors s = .ok filter ∧ ∀ expression selection,
      filter = some ⟨expression, selection⟩ ↔ expression ≠ [] ∧ s.expression? selection = some expression := by
  obtain ⟨matching, unmatched⟩ := s
  rcases h with rfl | rfl
  · refine ⟨_, ofSelectors_unmatched unmatched, fun expression selection => ?_⟩
    cases selection <;> simp [nonempty?_eq_some_iff, Selectors.expression?]
  · refine ⟨_, ofSelectors_matching matching, fun expression selection => ?_⟩
    cases selection <;> simp [nonempty?_eq_some_iff, Selectors.expression?]

/-- The settings are what the arguments ask for, where an empty expression and an empty namespace ask for nothing. -/
structure Settings.Follows (s : Settings) (a : Arguments) : Prop where
  command : s.command = a.command
  /-- The filter has the expression of a selector, and is for what this selector selects. -/
  filter : ∀ expression selection,
    s.filter = some ⟨expression, selection⟩ ↔ expression ≠ [] ∧ a.selectors.expression? selection = some expression
  unfiltered : s.filter = none ↔ ∀ expression selection, a.selectors.expression? selection = some expression → expression = []
  ns : ∀ ns, s.ns = some ns ↔ ns ≠ [] ∧ a.command ≠ .taints ∧ a.ns = some ns

/-- There are settings for arguments with at most one selector. -/
theorem Settings.exists_follows {a : Arguments} (h : a.selectors.matching = none ∨ a.selectors.unmatched = none) :
    ∃ s, ofArguments a = .ok s ∧ s.Follows a := by
  obtain ⟨filter, hfilter, hexpression⟩ := Filter.exists_ofSelectors h
  refine ⟨⟨a.command, filter, nsOf a.command a.ns, a.kubeconfig, a.context, a.format, a.noHeaders, a.verbose⟩, ?_, ?_⟩
  · rw [ofArguments, hfilter]
    rfl
  · constructor
    case command => rfl
    case filter => exact hexpression
    case unfiltered =>
      have hnone : filter = none ↔ ∀ f, filter ≠ some f := Option.eq_none_iff_forall_ne_some
      refine hnone.trans ⟨fun hne expression selection hselector => ?_, fun hempty f hf => ?_⟩
      · by_contra hexpr
        exact hne _ ((hexpression expression selection).mpr ⟨hexpr, hselector⟩)
      · obtain ⟨hexpr, hselector⟩ := (hexpression f.expression f.selection).mp hf
        exact hexpr (hempty f.expression f.selection hselector)
    case ns =>
      intro ns
      cases hcommand : a.command with
      | taints => simp [nsOf]
      | tolerations apiVersion name => simp [nsOf, nonempty?_eq_some_iff]

/-- A command line that can be read has settings, with a filter exactly when a selector has an expression. -/
theorem CommandLine.exists_settings {args : List Text} {a : Arguments} (h : parse args = .ok a) :
    ∃ s, Program.settings args = .ok (.ok s) ∧ s.command = a.command ∧
      ∀ expression, a.selectors.HasExpression expression ↔ ∃ selection, s.filter = some ⟨expression, selection⟩ := by
  obtain ⟨s, hs, hfollows⟩ := Settings.exists_follows (not_both_selectors h)
  refine ⟨s, CommandLine.settings_eq h hs, hfollows.command, fun expression => ?_⟩
  simp only [Selectors.hasExpression_iff, hfollows.filter]

/-- For every command line that can be read there are settings, which are what its arguments ask for; that both selectors are given,
for which there would be none, does not come about. -/
theorem settings_never_conflict {args : List Text} {a : Arguments} (h : CommandLine.parse args = .ok a) :
    ∃ s, Settings.ofArguments a = .ok s ∧ Program.settings args = .ok (.ok s) ∧ s.Follows a := by
  obtain ⟨s, hs, hfollows⟩ := Settings.exists_follows (CommandLine.not_both_selectors h)
  exact ⟨s, hs, CommandLine.settings_eq h hs, hfollows⟩

/-- A selector that is separated from its expression and a namespace that is given but empty, one before and one after the operands. -/
theorem settings_never_conflict_blank_namespace :
    let a : Arguments := ⟨.tolerations "apps/v1".toList "deployments".toList, ⟨none, some "Exists(key)".toList⟩, some [], none, none,
      .table, false, false⟩
    ∃ s, Settings.ofArguments a = .ok s ∧
      Program.settings ["tolerations".toList, "--no-match".toList, "Exists(key)".toList, "apps/v1".toList,
        "deployments".toList, "--namespace=".toList] = .ok (.ok s) ∧
      s.Follows a ∧ s.filter = some ⟨"Exists(key)".toList, .unmatched⟩ ∧ s.ns = none := by
  intro a
  have hparse : CommandLine.parse ["tolerations".toList, "--no-match".toList, "Exists(key)".toList, "apps/v1".toList,
      "deployments".toList, "--namespace=".toList] = .ok a := rfl
  obtain ⟨s, hs, hsettings, hfollows⟩ := settings_never_conflict hparse
  have hns : s.ns = none := Option.eq_none_iff_forall_ne_some.mpr fun ns hsome => by
    obtain ⟨hne, -, hgiven⟩ := (hfollows.ns ns).mp hsome
    exact hne (Option.some.inj hgiven).symm
  exact ⟨s, hs, hsettings, hfollows, (hfollows.filter _ _).mpr ⟨by decide, rfl⟩, hns⟩

end TaintSummary
