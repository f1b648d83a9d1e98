import TaintSummary.Proofs.CommandLine.Scan

/-!
# The open option

An option that has its value stays open until the next option or operand, which closes it first. So it may as well be closed before
the arguments that follow it: these are then scanned alike (`all_close`). When it cannot be closed there is an error, whatever the
arguments are (`all_of_refused`).
-/

namespace TaintSummary.CommandLine.Scan

/-- The operation closes the open option before anything else, so that it may as well find it closed; without that it fails. -/
structure ClosesFirst (f : Scan → Except Stop Scan) : Prop where
  closed : ∀ {s c}, s.close = .ok c → f s = f c
  refused : ∀ {s e}, s.close = .error e → ∃ e', f s = .error e'

/-- Closing is such an operation: closing twice is closing once. -/
theorem closesFirst_close : ClosesFirst close := by
  constructor
  case closed => exact @fun s c h => h.trans (close_of_pending (close_eq_ok h).1).symm
  case refused => exact @fun _ e h => ⟨e, h⟩

/-- An error is one too, whether or not an option is open. -/
theorem closesFirst_error (e : Stop) : ClosesFirst fun _ => .error e := by
  constructor
  case closed => exact @fun _ _ _ => rfl
  case refused => exact @fun _ _ _ => ⟨e, rfl⟩

/-- What comes after such an operation makes no difference. -/
theorem ClosesFirst.bind {f : Scan → Except Stop Scan} (hf : ClosesFirst f) (g : Scan → Except Stop Scan) :
    ClosesFirst fun s => (f s).bind g := by
  constructor
  case closed => exact @fun s c h => congrArg (Except.bind · g) (hf.closed h)
  case refused =>
    intro s e h
    obtain ⟨e', he'⟩ := hf.refused h
    exact ⟨e', by rw [he']; rfl⟩

/-- What is made of its scan afterwards makes no difference. -/
theorem ClosesFirst.map {f : Scan → Except Stop Scan} (hf : ClosesFirst f) (g : Scan → Scan) :
    ClosesFirst fun s => (f s).map g := by
  have hbind : (fun s => (f s).map g) = fun s => (f s).bind fun s => .ok (g s) := by
    funext s
    cases f s <;> rfl
  rw [hbind]
  exact hf.bind _

/-- Putting down an option with its value closes the open one first. -/
theorem closesFirst_assign (o : Opt) (value : Text) : ClosesFirst fun s => s.assign o value :=
  closesFirst_close.bind _

/-- Opening an option closes the open one first. -/
theorem closesFirst_await (o : Opt) : ClosesFirst fun s => s.await o := closesFirst_close.map _

/-- Putting down a flag closes the open option first. -/
theorem closesFirst_flag (p : Place) (o : Opt) (full : Bool) : ClosesFirst fun s => s.flag p o full :=
  closesFirst_close.bind _

/-- An option under its long name closes the open one first, or is in error whichever is open. -/
theorem closesFirst_long (p : Place) (text : Text) : ClosesFirst fun s => s.long p text := by
  rcases long_cases p text with ⟨e, h⟩ | ⟨o, value, h⟩ | ⟨o, h⟩ | ⟨o, -, h⟩ <;> rw [h]
  · exact closesFirst_error e
  · exact closesFirst_assign o value
  · exact closesFirst_await o
  · exact closesFirst_flag p o true

/-- The first of several short names closes the open option, and the others come after it. -/
theorem closesFirst_cluster (p : Place) (c : Char) (rest : Text) : ClosesFirst fun s => s.cluster p (c :: rest) := by
  rcases cluster_cases p c rest with ⟨e, h⟩ | ⟨o, value, h⟩ | ⟨o, h⟩ | ⟨o, -, h⟩ <;> rw [h]
  · exact closesFirst_error e
  · exact closesFirst_assign o value
  · exact closesFirst_await o
  · exact (closesFirst_flag p o false).bind _

/-- An operand closes the open option first; whether there is room for it does not depend on that. -/
theorem closesFirst_operand (p : Place) (text : Text) : ClosesFirst fun s => s.operand p text := by
  have hadd := closesFirst_close.map fun s => { s with operands := s.operands ++ [text] }
  constructor
  case closed =>
    intro s c h
    obtain ⟨-, htrailing, hoperands⟩ := close_eq_ok h
    simp only [operand, excess, htrailing, hoperands, hadd.closed h]
  case refused =>
    intro s e h
    by_cases hroom : s.operands.length < p.operands.length
    · rw [operand, if_pos hroom]
      exact hadd.refused h
    · rw [operand, if_neg hroom]
      exact ⟨_, rfl⟩

/-- Where no value is due, an argument that does not look like an option is an operand. -/
theorem word_of_not_isAwaiting {p : Place} {text : Text} {s : Scan} (h : s.isAwaiting = false) :
    s.word p text = s.operand p text := by
  rcases hpending : s.pending with _ | ⟨o, _ | value⟩
  · simp only [word, hpending]
  · simp [isAwaiting, hpending] at h
  · simp only [word, hpending]

/-- No value is due once the open option is closed. -/
theorem not_isAwaiting_of_close {s c : Scan} (h : s.close = .ok c) : c.isAwaiting = false := by
  rw [isAwaiting, (close_eq_ok h).1]

/-- Where no value is due, a step closes the open option first, unless it only meets two hyphens. -/
theorem exists_closesFirst_step {p : Place} {arg : Text} {s : Scan} (hawaiting : s.isAwaiting = false)
    (hhyphens : s.trailing = true ∨ arg ≠ ['-', '-']) :
    ∃ f, ClosesFirst f ∧ s.step p arg = f s ∧ ∀ c, s.close = .ok c → c.step p arg = f c := by
  by_cases htrailing : s.trailing = true
  · exact ⟨_, closesFirst_operand p arg, step_of_trailing htrailing p arg,
      fun c hc => step_of_trailing ((close_eq_ok hc).2.1.trans htrailing) p arg⟩
  · have hplain : s.trailing = false := Bool.eq_false_iff.mpr htrailing
    have hclosed : ∀ c, s.close = .ok c → c.trailing = false := fun c hc => (close_eq_ok hc).2.1.trans hplain
    rcases step_cases p arg with harg | ⟨text, hlong⟩ | ⟨d, rest, hcluster⟩ | hword
    · exact absurd harg (hhyphens.resolve_left htrailing)
    · exact ⟨_, closesFirst_long p text, hlong s hplain, fun c hc => hlong c (hclosed c hc)⟩
    · exact ⟨_, closesFirst_cluster p d rest, hcluster s hplain, fun c hc => hcluster c (hclosed c hc)⟩
    · exact ⟨_, closesFirst_operand p arg, (hword s hplain).trans (word_of_not_isAwaiting hawaiting),
        fun c hc => (hword c (hclosed c hc)).trans (word_of_not_isAwaiting (not_isAwaiting_of_close hc))⟩

/-- Closing does not see whether two hyphens have been met. -/
theorem close_setTrailing (s : Scan) :
    ({ s with trailing := true } : Scan).close = s.close.map fun c => { c with trailing := true } := by
  obtain ⟨options, operands, _ | ⟨o, _ | value⟩, trailing⟩ := s
  · rfl
  · rfl
  · have hhas : ∀ t, (⟨options, operands, none, t⟩ : Scan).has o = (⟨options, operands, none, false⟩ : Scan).has o := fun _ => rfl
    simp only [close, put, hhas]
    split
    · rfl
    · split <;> rfl

/-- Two hyphens end the options and leave the open one open. -/
theorem step_hyphens {s : Scan} (h : s.trailing = false) (p : Place) :
    s.step p ['-', '-'] = .ok { s with trailing := true } := by
  simp [step, h]

/-- An option that has its value may as well be closed before the arguments: it is then closed by the first of them that is not two
hyphens, or is still open after them. -/
theorem steps_close {s c : Scan} (hawaiting : s.isAwaiting = false) (hclose : s.close = .ok c) (p : Place) (args : List Text) :
    steps p s args = steps p c args ∨
      ∃ s' c', steps p s args = .ok s' ∧ steps p c args = .ok c' ∧ s'.close = .ok c' := by
  induction args generalizing s c with
  | nil => exact Or.inr ⟨s, c, rfl, rfl, hclose⟩
  | cons arg rest ih =>
    by_cases hhyphens : s.trailing = true ∨ arg ≠ ['-', '-']
    · obtain ⟨f, hf, hs, hc⟩ := exists_closesFirst_step (p := p) hawaiting hhyphens
      exact Or.inl (by rw [steps, steps, hs, hc c hclose, hf.closed hclose])
    · obtain ⟨htrailing, harg⟩ := not_or.mp hhyphens
      obtain rfl := Decidable.not_not.mp harg
      have hplain : s.trailing = false := Bool.eq_false_iff.mpr htrailing
      have hopen : ({ s with trailing := true } : Scan).isAwaiting = false := hawaiting
      rw [steps, steps, step_hyphens hplain, step_hyphens ((close_eq_ok hclose).2.1.trans hplain)]
      exact ih hopen (by rw [close_setTrailing, hclose]; rfl)

/-- The arguments are scanned alike whether an option that has its value is closed before them or not. -/
theorem all_close {p : Place} {s c : Scan} (hawaiting : s.isAwaiting = false) (hclose : s.close = .ok c) (args : List Text) :
    all p s args = all p c args := by
  rw [all_eq_steps, all_eq_steps]
  rcases steps_close hawaiting hclose p args with heq | ⟨s', c', hs, hc, hclose'⟩
  · rw [heq]
  · rw [hs, hc]
    exact hclose'.trans (close_of_pending (close_eq_ok hclose').1).symm

/-- When the open option cannot be closed, no arguments can be scanned. -/
theorem all_of_refused {s : Scan} {e : Stop} (hawaiting : s.isAwaiting = false) (hclose : s.close = .error e) (p : Place)
    (args : List Text) : ∃ e', all p s args = .error e' := by
  induction args generalizing s with
  | nil => exact ⟨e, hclose⟩
  | cons arg rest ih =>
    by_cases hhyphens : s.trailing = true ∨ arg ≠ ['-', '-']
    · obtain ⟨f, hf, hs, -⟩ := exists_closesFirst_step (p := p) hawaiting hhyphens
      obtain ⟨e', he'⟩ := hf.refused hclose
      exact ⟨e', by rw [all, hs, he']; rfl⟩
    · obtain ⟨htrailing, harg⟩ := not_or.mp hhyphens
      obtain rfl := Decidable.not_not.mp harg
      have hopen : ({ s with trailing := true } : Scan).isAwaiting = false := hawaiting
      rw [all, step_hyphens (Bool.eq_false_iff.mpr htrailing)]
      exact ih hopen (by rw [close_setTrailing, hclose]; rfl)

/-- An option that is met in the arguments after the open one is closed is met in them before as well. -/
theorem Misses.of_close {p : Place} {o : Opt} {s c : Scan} {args : List Text} (h : Misses p o s args)
    (hawaiting : s.isAwaiting = false) (hclose : s.close = .ok c) : Misses p o c args := by
  intro front back c' hargs hc
  rcases steps_close hawaiting hclose p front with heq | ⟨s', c'', hs, hc'', hclose'⟩
  · exact h front back c' hargs (heq.trans hc)
  · rw [hc''] at hc
    cases hc
    rw [met_of_close hclose']
    exact h front back s' hargs hs

end TaintSummary.CommandLine.Scan
