import TaintSummary.CommandLine.Scan
import TaintSummary.Proofs.Results

/-!
# Scans with one more option

Two scans of the same arguments, one of them with an option that the other has not got, go on alike as long as the option is not met
in the arguments: they come to the same error, or again to two such scans. `Carries` says so of an operation on scans; every step of a
scan is put together from operations of which it holds (`carries_step`), and so it holds of the scan of all arguments (`alike_all`).
-/

namespace TaintSummary.CommandLine

/-- The option has a value, and that may be any text. -/
structure Opt.TakesText (o : Opt) : Prop where
  takesValue : o.takesValue = true
  accepts : ∀ value, o.accepts value = true

namespace Scan

/-- The scan after the arguments, with the last option perhaps still open. -/
def steps (p : Place) : Scan → List Text → Except Stop Scan
  | s, [] => .ok s
  | s, arg :: rest => (s.step p arg).bind fun s => steps p s rest

/-- Arguments may be scanned in two parts, the last option being closed after the second one only. -/
theorem all_append (p : Place) (s : Scan) (front back : List Text) :
    all p s (front ++ back) = (steps p s front).bind fun s => all p s back := by
  induction front generalizing s with
  | nil => rfl
  | cons arg rest ih =>
    rw [List.cons_append, all, steps]
    cases s.step p arg with
    | error e => rfl
    | ok t => exact ih t

/-- Arguments may be scanned in two parts when the last option stays open as well. -/
theorem steps_append (p : Place) (s : Scan) (front back : List Text) :
    steps p s (front ++ back) = (steps p s front).bind fun s => steps p s back := by
  induction front generalizing s with
  | nil => rfl
  | cons arg rest ih =>
    rw [List.cons_append, steps, steps]
    cases s.step p arg with
    | error e => rfl
    | ok t => exact ih t

/-- All arguments are scanned when the last option is closed after them. -/
theorem all_eq_steps (p : Place) (s : Scan) (args : List Text) : all p s args = (steps p s args).bind close := by
  rw [← List.append_nil args, all_append, List.append_nil]
  rfl

/-- What a long option does depends on its name alone. -/
theorem long_cases (p : Place) (text : Text) :
    (∃ e, (fun s : Scan => s.long p text) = fun _ => .error e) ∨
      (∃ o v, (fun s : Scan => s.long p text) = fun s => s.assign o v) ∨
      (∃ o, (fun s : Scan => s.long p text) = fun s => s.await o) ∨
      ∃ o, o.takesValue = false ∧ (fun s : Scan => s.long p text) = fun s => s.flag p o true := by
  cases hcut : Text.cut? '=' text with
  | none =>
    cases ho : p.long? text with
    | none => exact Or.inl ⟨_, funext fun s => by simp only [long, hcut, ho]; rfl⟩
    | some o =>
      by_cases htakes : o.takesValue = true
      · exact Or.inr (Or.inr (Or.inl ⟨o, funext fun s => by simp only [long, hcut, ho, if_pos htakes]⟩))
      · exact Or.inr (Or.inr (Or.inr
          ⟨o, Bool.eq_false_iff.mpr htakes, funext fun s => by simp only [long, hcut, ho, if_neg htakes]⟩))
  | some cut =>
    cases ho : p.long? cut.1 with
    | none => exact Or.inl ⟨_, funext fun s => by simp only [long, hcut, ho]; rfl⟩
    | some o =>
      by_cases htakes : o.takesValue = true
      · exact Or.inr (Or.inl ⟨o, cut.2, funext fun s => by simp only [long, hcut, ho, if_pos htakes]⟩)
      · exact Or.inl ⟨_, funext fun s => by simp only [long, hcut, ho, if_neg htakes]; rfl⟩

/-- What short names do depends on the first of them. -/
theorem cluster_cases (p : Place) (c : Char) (rest : Text) :
    (∃ e, (fun s : Scan => s.cluster p (c :: rest)) = fun _ => .error e) ∨
      (∃ o v, (fun s : Scan => s.cluster p (c :: rest)) = fun s => s.assign o v) ∨
      (∃ o, (fun s : Scan => s.cluster p (c :: rest)) = fun s => s.await o) ∨
      ∃ o, o.takesValue = false ∧
        (fun s : Scan => s.cluster p (c :: rest)) = fun s => (s.flag p o false).bind fun s => s.cluster p rest := by
  cases ho : p.shortNamed? c with
  | none => exact Or.inl ⟨_, funext fun s => by rw [cluster, ho]⟩
  | some o =>
    by_cases htakes : o.takesValue = true
    · rcases rest with _ | ⟨d, rest⟩
      · exact Or.inr (Or.inr (Or.inl ⟨o, funext fun s => by simp only [cluster, ho, if_pos htakes]⟩))
      · by_cases hd : d = '='
        · exact Or.inr (Or.inl ⟨o, rest, funext fun s => by simp only [cluster, ho, if_pos htakes, hd]⟩)
        · exact Or.inr (Or.inl ⟨o, d :: rest, funext fun s => by simp [cluster, ho, htakes, hd]⟩)
    · exact Or.inr (Or.inr (Or.inr
        ⟨o, Bool.eq_false_iff.mpr htakes, funext fun s => by rw [cluster, ho]; simp only [if_neg htakes]⟩))

/-- What a step does before two hyphens have been met depends on the argument alone. -/
theorem step_cases (p : Place) (arg : Text) :
    arg = ['-', '-'] ∨ (∃ text, ∀ s : Scan, s.trailing = false → s.step p arg = s.long p text) ∨
      (∃ c rest, ∀ s : Scan, s.trailing = false → s.step p arg = s.cluster p (c :: rest)) ∨
      ∀ s : Scan, s.trailing = false → s.step p arg = s.word p arg := by
  have hplain : ∀ {s : Scan} {x y : Except Stop Scan}, s.trailing = false → (if s.trailing then x else y) = y :=
    fun h => by rw [h]; rfl
  unfold step
  split
  · exact Or.inl rfl
  · next text _ => exact Or.inr (Or.inl ⟨text, fun s h => hplain h⟩)
  · next c rest _ _ => exact Or.inr (Or.inr (Or.inl ⟨c, rest, fun s h => hplain h⟩))
  · exact Or.inr (Or.inr (Or.inr fun s h => hplain h))

/-- After two hyphens every argument is an operand. -/
theorem step_of_trailing {s : Scan} (h : s.trailing = true) (p : Place) (arg : Text) : s.step p arg = s.operand p arg := by
  simp only [step, h, if_true]

/-- `t` is the scan `s` with the option put down, wherever among the other options it stands. -/
structure With (o : Opt) (value : Text) (s t : Scan) : Prop where
  value : t.value? o = some value
  others : ∀ o', o' ≠ o → t.value? o' = s.value? o'
  operands : t.operands = s.operands
  pending : t.pending = s.pending
  trailing : t.trailing = s.trailing

theorem has_eq_false_iff {s : Scan} {o : Opt} : s.has o = false ↔ s.value? o = none := by
  simp [has]

/-- The value of an option after another one is put down. -/
theorem value?_append (s : Scan) (o x : Opt) (value : Text) :
    ({ s with options := s.options ++ [(o, value)] } : Scan).value? x =
      (s.value? x).or (if o = x then some value else none) := by
  unfold value?
  rw [List.find?_append]
  cases s.options.find? fun e => e.1 = x with
  | some e => rfl
  | none => by_cases ho : o = x <;> simp [ho]

/-- An option is put down unless it is there already or does not accept the value. -/
theorem put_eq_ok_iff {s t : Scan} {o : Opt} {value : Text} :
    s.put o value = .ok t ↔
      s.has o = false ∧ o.accepts value = true ∧ t = { s with options := s.options ++ [(o, value)] } := by
  unfold put
  split
  · next h => simp [h]
  · next h =>
    have h : s.has o = false := Bool.eq_false_iff.mpr h
    split
    · next haccepts => simp [h, haccepts, eq_comm]
    · next haccepts => simp [haccepts]

/-- After an option is put down there are this one and those that were there before. -/
theorem has_append (s : Scan) (o x : Opt) (value : Text) :
    ({ s with options := s.options ++ [(o, value)] } : Scan).has x = (s.has x || decide (o = x)) := by
  rw [has, value?_append, has]
  by_cases ho : o = x <;> cases s.value? x <;> simp [ho]

theorem With.has {o : Opt} {value : Text} {s t : Scan} (h : With o value s t) {o' : Opt} (ho : o' ≠ o) :
    t.has o' = s.has o' := by
  rw [Scan.has, Scan.has, h.others o' ho]

/-- The option itself put down. -/
theorem with_of_put {o : Opt} {value : Text} {s t : Scan} (h : s.put o value = .ok t) : With o value s t := by
  obtain ⟨habsent, -, rfl⟩ := put_eq_ok_iff.mp h
  have hnone : s.value? o = none := has_eq_false_iff.mp habsent
  refine ⟨?_, fun o' ho => ?_, rfl, rfl, rfl⟩
  · rw [value?_append, hnone, if_pos rfl, Option.none_or]
  · rw [value?_append, if_neg (Ne.symm ho), Option.or_none]

/-- The option is there, or it is open. -/
def Met (s : Scan) (o : Opt) : Prop := s.has o = true ∨ ∃ value, s.pending = some (o, value)

/-- Where no option is open, the options that are met are those that are there. -/
theorem met_iff_of_pending_eq_none {s : Scan} {o : Opt} (h : s.pending = none) : s.Met o ↔ s.has o = true := by
  simp [Met, h]

/-- Putting an option down meets this one and no other. -/
theorem met_of_put {s t : Scan} {x o : Opt} {value : Text} (h : s.put x value = .ok t) : t.Met o ↔ s.Met o ∨ x = o := by
  obtain ⟨-, -, rfl⟩ := put_eq_ok_iff.mp h
  simp only [Met, has_append, Bool.or_eq_true, decide_eq_true_eq]
  exact or_right_comm

/-- Without an open option there is nothing to close. -/
theorem close_of_pending {s : Scan} (h : s.pending = none) : s.close = .ok s := by
  rw [close, h]

/-- Closing changes the options only, and leaves none open. -/
theorem close_eq_ok {s t : Scan} (h : s.close = .ok t) :
    t.pending = none ∧ t.trailing = s.trailing ∧ t.operands = s.operands := by
  unfold close at h
  split at h
  · next hpending =>
    cases h
    exact ⟨hpending, rfl, rfl⟩
  · cases h
  · obtain ⟨-, -, rfl⟩ := put_eq_ok_iff.mp h
    exact ⟨rfl, rfl, rfl⟩

/-- An option that was open is there once it is closed. -/
theorem met_of_close {s c : Scan} (h : s.close = .ok c) (o : Opt) : c.Met o ↔ s.Met o := by
  unfold close at h
  split at h
  · cases h
    exact Iff.rfl
  · cases h
  · next x value hpending =>
    rw [met_of_put h, met_iff_of_pending_eq_none rfl]
    simp only [Met, hpending, Option.some.injEq, Prod.mk.injEq, exists_and_left, exists_eq', and_true]
    exact Iff.rfl

/-- A flag that is accepted is met, and no other option is. -/
theorem met_of_flag {s t : Scan} {p : Place} {x o : Opt} {full : Bool} (h : s.flag p x full = .ok t) :
    t.Met o ↔ s.Met o ∨ x = o := by
  obtain ⟨c, hc, hput⟩ := bind_eq_ok_iff.mp h
  rw [← met_of_close hc o]
  cases x with
  | help => cases hput
  | version => cases hput
  | _ => exact met_of_put hput

/-- The same error, or a scan and the scan with the option. -/
inductive Alike (o : Opt) (value : Text) (x y : Except Stop Scan) : Prop
  | refused (e : Stop) (without : x = .error e) (along : y = .error e)
  | found (s t : Scan) (without : x = .ok s) (along : y = .ok t) (put : With o value s t)

/-- Once the option is met it stays so. As long as it is not, a scan with the option comes to the same as the scan without it, unless
the operation is one that meets the option. -/
structure Carries (o : Opt) (value : Text) (f : Scan → Except Stop Scan) : Prop where
  keeps : ∀ {s s'}, f s = .ok s' → s.Met o → s'.Met o
  follows : ∀ {s t}, With o value s t → ¬s.Met o → (∃ s', f s = .ok s' ∧ s'.Met o) ∨ Alike o value (f s) (f t)

/-- The operation is none that meets the option. -/
def Spares (o : Opt) (f : Scan → Except Stop Scan) : Prop := ∀ {s s'}, f s = .ok s' → s'.Met o → s.Met o

section Carries

variable {o : Opt} {value : Text} {f g : Scan → Except Stop Scan}

/-- An operation that always fails comes to the same error with the option and without it. -/
theorem carries_error (e : Stop) : Carries o value fun _ => .error e := by
  constructor
  case keeps => exact @fun _ _ h => nomatch h
  case follows => exact @fun _ _ _ _ => Or.inr (.refused e rfl rfl)

/-- An operation may follow one that does not meet the option. -/
theorem Carries.bind (hf : Carries o value f) (hspares : Spares o f) (hg : Carries o value g) :
    Carries o value fun s => (f s).bind g := by
  constructor
  case keeps =>
    intro s s' h hs
    obtain ⟨middle, hmiddle, hrest⟩ := bind_eq_ok_iff.mp h
    exact hg.keeps hrest (hf.keeps hmiddle hs)
  case follows =>
    intro s t hw hs
    rcases hf.follows hw hs with ⟨s', hs', hmet⟩ | ⟨e, hfs, hft⟩ | ⟨s', t', hfs, hft, hw'⟩
    · exact absurd (hspares hs' hmet) hs
    · exact Or.inr (.refused e (by rw [hfs]; rfl) (by rw [hft]; rfl))
    · rw [hfs, hft]
      exact hg.follows hw' fun hmet => hs (hspares hfs hmet)

/-- A change may follow an operation that does not meet the option. -/
theorem Carries.map {change : Scan → Scan} (hf : Carries o value f) (hspares : Spares o f)
    (hg : Carries o value fun s => .ok (change s)) : Carries o value fun s => (f s).map change := by
  have hbind : (fun s => (f s).map change) = fun s => (f s).bind fun s => .ok (change s) := by
    funext s
    cases f s <;> rfl
  rw [hbind]
  exact hf.bind hspares hg

/-- A change to the operands, or to whether two hyphens have been met, is followed when it treats these parts alike. -/
theorem carries_ok {change : Scan → Scan} (hoptions : ∀ s, (change s).options = s.options)
    (hpending : ∀ s, (change s).pending = s.pending)
    (halike : ∀ {s t}, With o value s t →
      (change t).operands = (change s).operands ∧ (change t).trailing = (change s).trailing) :
    Carries o value fun s => .ok (change s) := by
  have hvalue : ∀ s x, (change s).value? x = s.value? x := fun s x => by rw [value?, hoptions, value?]
  constructor
  case keeps =>
    rintro s _ ⟨⟩ hs
    rwa [Met, Scan.has, hvalue, hpending]
  case follows =>
    rintro s t hw -
    obtain ⟨hoperands, htrailing⟩ := halike hw
    refine Or.inr (.found (change s) (change t) rfl rfl ⟨?_, fun o' ho => ?_, hoperands, ?_, htrailing⟩)
    · rw [hvalue, hw.value]
    · rw [hvalue, hvalue, hw.others o' ho]
    · rw [hpending, hpending, hw.pending]

/-- The open option may be another one, or none, when it is the same with the option and without it. -/
theorem With.setPending {s t : Scan} (h : With o value s t) (pending : Option (Opt × Option Text)) :
    With o value { s with pending } { t with pending } :=
  ⟨h.value, h.others, h.operands, rfl, h.trailing⟩

/-- Another option is put down with the option as it is without it. -/
theorem With.put {s s' t : Scan} {x : Opt} {v : Text} (h : With o value s t) (hx : x ≠ o) (hput : s.put x v = .ok s') :
    ∃ t', t.put x v = .ok t' ∧ With o value s' t' := by
  obtain ⟨habsent, haccepts, rfl⟩ := put_eq_ok_iff.mp hput
  refine ⟨_, put_eq_ok_iff.mpr ⟨(h.has hx).trans habsent, haccepts, rfl⟩, ?_, fun o' ho => ?_, h.operands, h.pending, h.trailing⟩
  · rw [value?_append, h.value, Option.some_or]
  · rw [value?_append, value?_append, h.others o' ho]

/-- An option other than the one put down is put down, or refused, alike. -/
theorem With.alike_put {s t : Scan} {x : Opt} (h : With o value s t) (hx : x ≠ o) (v : Text) :
    Alike o value (s.put x v) (t.put x v) := by
  cases hput : s.put x v with
  | ok s' =>
    obtain ⟨t', ht', hw⟩ := h.put hx hput
    exact .found s' t' rfl ht' hw
  | error e =>
    refine .refused e rfl ?_
    rw [← hput, Scan.put, Scan.put, h.has hx]
    split
    · rfl
    · split
      · next hnone haccepts =>
        rw [Scan.put, if_neg hnone, if_pos haccepts] at hput
        cases hput
      · rfl

variable (ho : o.TakesText)

include ho in
/-- Putting an option down is followed: it is the option itself, which is then met, or another one. -/
theorem carries_put (x : Opt) (v : Text) : Carries o value fun s => s.put x v := by
  constructor
  case keeps => exact @fun s s' h hs => (met_of_put h).mpr (Or.inl hs)
  case follows =>
    intro s t hw hs
    by_cases hx : x = o
    · -- the option itself is put down, since it is not there yet and takes any text
      subst hx
      have habsent : s.has x = false := Bool.eq_false_iff.mpr fun hhas => hs (Or.inl hhas)
      have hput := put_eq_ok_iff.mpr ⟨habsent, ho.accepts v, rfl⟩
      exact Or.inl ⟨_, hput, (met_of_put hput).mpr (Or.inr rfl)⟩
    · exact Or.inr (hw.alike_put hx v)

/-- Closing meets no option that was not met before. -/
theorem spares_close : Spares o close := @fun _ _ h hmet => (met_of_close h o).mp hmet

/-- Closing is followed, since the open option is another one as long as the option is not met. -/
theorem carries_close : Carries o value close := by
  constructor
  case keeps => exact @fun s s' h hs => (met_of_close h o).mpr hs
  case follows =>
    intro s t hw hs
    rcases hpending : s.pending with _ | ⟨x, _ | v⟩
    · refine Or.inr (.found s t (close_of_pending hpending) (close_of_pending (hw.pending.trans hpending)) hw)
    · refine Or.inr (.refused (.usage .invalidValue) ?_ ?_)
      · simp only [close, hpending]
      · simp only [close, hw.pending, hpending]
    · have hx : x ≠ o := fun hx => hs (Or.inr ⟨some v, by rw [hpending, hx]⟩)
      simp only [close, hw.pending, hpending]
      exact Or.inr ((hw.setPending none).alike_put hx v)

include ho in
/-- Putting down an option with its value is followed. -/
theorem carries_assign (x : Opt) (v : Text) : Carries o value fun s => s.assign x v :=
  carries_close.bind spares_close (carries_put ho x v)

/-- Opening an option is followed. -/
theorem carries_await (x : Opt) : Carries o value fun s => s.await x := by
  constructor
  case keeps =>
    intro s s' h hs
    obtain ⟨c, hc, rfl⟩ := map_eq_ok_iff.mp h
    have hmet : c.Met o := (met_of_close hc o).mpr hs
    exact Or.inl ((met_iff_of_pending_eq_none (close_eq_ok hc).1).mp hmet)
  case follows =>
    intro s t hw hs
    rcases carries_close.follows hw hs with ⟨c, hc, hmet⟩ | ⟨e, hfs, hft⟩ | ⟨c, d, hc, hd, hw'⟩
    · exact absurd (spares_close hc hmet) hs
    · exact Or.inr (.refused e (by rw [await, hfs]; rfl) (by rw [await, hft]; rfl))
    · exact Or.inr (.found _ _ (by rw [await, hc]; rfl) (by rw [await, hd]; rfl) (hw'.setPending _))

include ho in
/-- A flag is another option than one that has a value. -/
theorem ne_of_takesValue {x : Opt} (hx : x.takesValue = false) : x ≠ o := by
  rintro rfl
  rw [ho.takesValue] at hx
  cases hx

include ho in
/-- Putting down a flag is followed, and so is asking for help or the version, which stops the scan. -/
theorem carries_flag (p : Place) (x : Opt) (full : Bool) : Carries o value fun s => s.flag p x full := by
  refine carries_close.bind spares_close ?_
  cases x with
  | help => exact carries_error _
  | version => exact carries_error _
  | _ => exact carries_put ho _ []

include ho in
/-- A flag does not meet an option that has a value. -/
theorem spares_flag (p : Place) {x : Opt} (hx : x.takesValue = false) (full : Bool) : Spares o fun s => s.flag p x full :=
  @fun _ _ h hmet => ((met_of_flag h).mp hmet).resolve_right (ne_of_takesValue ho hx)

include ho in
/-- An argument with an option under its long name is followed. -/
theorem carries_long (p : Place) (text : Text) : Carries o value fun s => s.long p text := by
  rcases long_cases p text with ⟨e, h⟩ | ⟨x, v, h⟩ | ⟨x, h⟩ | ⟨x, -, h⟩ <;> rw [h]
  · exact carries_error e
  · exact carries_assign ho x v
  · exact carries_await x
  · exact carries_flag ho p x true

include ho in
/-- An argument with short names is followed, one name after the other. -/
theorem carries_cluster (p : Place) (text : Text) : Carries o value fun s => s.cluster p text := by
  induction text with
  | nil => exact carries_ok (fun _ => rfl) (fun _ => rfl) fun h => ⟨h.operands, h.trailing⟩
  | cons c rest ih =>
    rcases cluster_cases p c rest with ⟨e, h⟩ | ⟨x, v, h⟩ | ⟨x, h⟩ | ⟨x, hx, h⟩ <;> rw [h]
    · exact carries_error e
    · exact carries_assign ho x v
    · exact carries_await x
    · exact (carries_flag ho p x false).bind (spares_flag ho p hx false) ih

/-- An operand is followed: whether there is room for it does not depend on the options. -/
theorem carries_operand (p : Place) (text : Text) : Carries o value fun s => s.operand p text := by
  have hadd : Carries o value fun s => .ok { s with operands := s.operands ++ [text] } :=
    carries_ok (fun _ => rfl) (fun _ => rfl) fun h => ⟨congrArg (· ++ [text]) h.operands, h.trailing⟩
  have hclosed := carries_close.map spares_close hadd
  constructor
  case keeps =>
    intro s s' h hs
    rw [operand] at h
    split at h
    · exact hclosed.keeps h hs
    · cases h
  case follows =>
    intro s t hw hs
    simp only [operand, excess, hw.operands, hw.trailing]
    split
    · exact hclosed.follows hw hs
    · exact Or.inr (.refused _ rfl rfl)

/-- An argument that does not look like an option is followed, as the value that is due or as an operand. -/
theorem carries_word (p : Place) (text : Text) : Carries o value fun s => s.word p text := by
  have hoperand : Carries o value fun s => s.operand p text := carries_operand p text
  constructor
  case keeps =>
    intro s s' h hs
    unfold word at h
    split at h
    · next x hpending =>
      cases h
      rcases hs with hhas | ⟨v, hv⟩
      · exact Or.inl hhas
      · rw [hpending] at hv
        cases hv
        exact Or.inr ⟨_, rfl⟩
    · exact hoperand.keeps h hs
  case follows =>
    intro s t hw hs
    rcases hpending : s.pending with _ | ⟨x, _ | v⟩ <;> simp only [word, hw.pending, hpending]
    · exact hoperand.follows hw hs
    · exact Or.inr (.found _ _ rfl rfl (hw.setPending _))
    · exact hoperand.follows hw hs

include ho in
/-- Every step of a scan is followed. -/
theorem carries_step (p : Place) (arg : Text) : Carries o value fun s => s.step p arg := by
  have hplain : ∃ f, Carries o value f ∧ ∀ s : Scan, s.trailing = false → s.step p arg = f s := by
    rcases step_cases p arg with rfl | ⟨text, h⟩ | ⟨c, rest, h⟩ | h
    · have htrailing : Carries o value fun s => .ok { s with trailing := true } :=
        carries_ok (fun _ => rfl) (fun _ => rfl) fun h => ⟨h.operands, rfl⟩
      exact ⟨_, htrailing, fun s hs => by simp [step, hs]⟩
    · exact ⟨_, carries_long ho p text, h⟩
    · exact ⟨_, carries_cluster ho p (c :: rest), h⟩
    · exact ⟨_, carries_word p arg, h⟩
  obtain ⟨f, hf, hplain⟩ := hplain
  have hoperand : Carries o value fun s => s.operand p arg := carries_operand p arg
  constructor
  case keeps =>
    intro s s' h hs
    cases htrailing : s.trailing with
    | true => exact hoperand.keeps ((step_of_trailing htrailing p arg).symm.trans h) hs
    | false => exact hf.keeps ((hplain s htrailing).symm.trans h) hs
  case follows =>
    intro s t hw hs
    cases htrailing : s.trailing with
    | true =>
      rw [step_of_trailing htrailing, step_of_trailing (hw.trailing.trans htrailing)]
      exact hoperand.follows hw hs
    | false =>
      rw [hplain s htrailing, hplain t (hw.trailing.trans htrailing)]
      exact hf.follows hw hs

include ho in
/-- An option that has been met is there after all arguments. -/
theorem has_of_met {p : Place} {args : List Text} {s r : Scan} (h : all p s args = .ok r) (hmet : s.Met o) : r.has o = true := by
  induction args generalizing s with
  | nil => exact (met_iff_of_pending_eq_none (close_eq_ok h).1).mp ((met_of_close h o).mpr hmet)
  | cons arg rest ih =>
    obtain ⟨t, hstep, hrest⟩ := bind_eq_ok_iff.mp h
    have hcarries : Carries o [] fun s => s.step p arg := carries_step ho p arg
    exact ih hrest (hcarries.keeps hstep hmet)

/-- As far as the arguments can be scanned the option is not met. -/
def Misses (p : Place) (o : Opt) (s : Scan) (args : List Text) : Prop :=
  ∀ front back s', args = front ++ back → steps p s front = .ok s' → ¬s'.Met o

include ho in
/-- An option that is not there after all arguments is not met in them. -/
theorem misses_of_absent {p : Place} {args : List Text} {s r : Scan} (h : all p s args = .ok r) (habsent : r.has o = false) :
    Misses p o s args := by
  rintro front back s' rfl hs' hmet
  rw [all_append, hs'] at h
  rw [has_of_met ho h hmet] at habsent
  cases habsent

/-- An option that is not met in the arguments is not there after them. -/
theorem Misses.has_eq_false {p : Place} {args : List Text} {s r : Scan} (hmisses : Misses p o s args) (h : all p s args = .ok r) :
    r.has o = false := by
  rw [all_eq_steps] at h
  obtain ⟨s', hs', hclose⟩ := bind_eq_ok_iff.mp h
  exact Bool.eq_false_iff.mpr fun hhas =>
    hmisses args [] s' (List.append_nil args).symm hs' ((met_of_close hclose o).mp (Or.inl hhas))

/-- What is not met in the arguments is not met in the last of them. -/
theorem Misses.of_append {p : Place} {front back : List Text} {s t : Scan} (h : Misses p o s (front ++ back))
    (hfront : steps p s front = .ok t) : Misses p o t back := by
  rintro middle rest t' rfl ht'
  refine h (front ++ middle) rest t' (List.append_assoc front middle rest).symm ?_
  rw [steps_append, hfront]
  exact ht'

include ho in
/-- An option that is not met can be put down. -/
theorem exists_put {p : Place} {args : List Text} {s : Scan} (h : Misses p o s args) (value : Text) :
    ∃ t, s.put o value = .ok t ∧ With o value s t := by
  have habsent : s.has o = false := Bool.eq_false_iff.mpr fun hhas => h [] args s rfl rfl (Or.inl hhas)
  have hput := put_eq_ok_iff.mpr ⟨habsent, ho.accepts value, rfl⟩
  exact ⟨_, hput, with_of_put hput⟩

include ho in
/-- All arguments are scanned with the option as they are without it, when the option is not met in them. -/
theorem alike_all {p : Place} {args : List Text} {s t : Scan} (hw : With o value s t) (hmisses : Misses p o s args) :
    Alike o value (all p s args) (all p t args) := by
  have hs : ¬s.Met o := hmisses [] args s rfl rfl
  induction args generalizing s t with
  | nil => exact (carries_close.follows hw hs).resolve_left fun ⟨c, hc, hmet⟩ => hs (spares_close hc hmet)
  | cons arg rest ih =>
    have hnext : ∀ s', s.step p arg = .ok s' → Misses p o s' rest := by
      rintro s' hs' front back s'' rfl hsteps
      exact hmisses (arg :: front) back s'' rfl (by rw [steps, hs']; exact hsteps)
    have hcarries : Carries o value fun s => s.step p arg := carries_step ho p arg
    rcases hcarries.follows hw hs with ⟨s', hs', hmet⟩ | ⟨e, hfs, hft⟩ | ⟨s', t', hfs, hft, hw'⟩
    · exact absurd hmet (hnext s' hs' [] rest s' rfl rfl)
    · exact .refused e (by rw [all, hfs]; rfl) (by rw [all, hft]; rfl)
    · rw [all, all, hfs, hft]
      exact ih hw' (hnext s' hfs) (hnext s' hfs [] rest s' rfl rfl)

end Carries

end Scan

end TaintSummary.CommandLine
