import TaintSummary.Unicode.Width

/-!
# Widths of lines that are put together

The width of a character depends on what follows it, though never across a space: what stands before a space and what stands after it
have widths of their own (`Text.width_append_space`). No sequence takes back more columns than were counted for it
(`Unicode.owed_le_foldr_step`).
-/

namespace TaintSummary

namespace Unicode

/-- The number of columns that the characters to the left may take back. -/
def Follow.owed (f : Follow) : Int :=
  if f = .joinedHalf ∨ f = .joinedFlags true ∨ f = .part .joinedConsonant ∨ f = .part .subscript then 1 else 0

/-- Nothing is taken back that would add columns. -/
theorem Follow.owed_nonneg (f : Follow) : 0 ≤ f.owed := by
  unfold owed
  split <;> decide

/-- A Khmer letter that can stand below another one takes a column of its own. -/
theorem one_le_charWidth_of_khmerSubscript {c : Char} (h : khmerSubscript.has c = true) : 1 ≤ charWidth c := by
  obtain ⟨r, hr, hlow, hhigh⟩ := CodeRanges.mem_iff.mp h
  have hrange : ∀ r ∈ khmerSubscript, 0x1780 ≤ r.1 ∧ r.2 ≤ 0x17AF := by decide
  have hzero : ∀ r ∈ zeroWidth, r.2 < 0x1780 ∨ 0x17AF < r.1 := by decide +kernel
  obtain ⟨hfirst, hlast⟩ := hrange r hr
  have hnot : zeroWidth.has c = false := by
    refine Bool.eq_false_iff.mpr fun hmem => ?_
    obtain ⟨z, hz, hzlow, hzhigh⟩ := CodeRanges.mem_iff.mp hmem
    rcases hzero z hz with hz | hz <;> omega
  unfold charWidth
  rw [hnot]
  split
  · decide
  split
  · decide
  split
  · decide
  · simp only [Bool.false_eq_true, if_false]
    split <;> decide

/-- Of the ligatures that a character may end, only a Khmer letter is worth more than what is still counted. -/
theorem owed_part_ofChar? {c : Char} {p : Part} (h : Part.ofChar? c = some p) :
    (Follow.part p).owed = 0 ∨ khmerSubscript.has c = true := by
  unfold Part.ofChar? at h
  grind [Follow.owed]

/-- At most one column can be taken back. -/
theorem Follow.owed_le_one (f : Follow) : f.owed ≤ 1 := by
  unfold owed
  split <;> decide

/-- Nothing is owed for a character on its own but what it was counted for. -/
theorem owed_stepAlone (c : Char) : (stepAlone c).2.owed ≤ (stepAlone c).1 := by
  have hwidth : (0 : Int) ≤ charWidth c := Int.natCast_nonneg _
  simp only [stepAlone, followOf]
  split
  · exact hwidth
  split
  · exact hwidth
  split
  · exact hwidth
  split
  · next p hp =>
    rcases owed_part_ofChar? hp with hnone | hsubscript
    · rw [hnone]
      exact hwidth
    · have hone := one_le_charWidth_of_khmerSubscript hsubscript
      have hpart := (Follow.part p).owed_le_one
      omega
  · exact hwidth

/-- A part of a ligature takes back what is owed at most. -/
theorem owed_before? {c : Char} {p : Part} {columns : Int} {next : Option Part} (h : p.before? c = some (columns, next)) :
    (match next with | some q => (Follow.part q).owed | none => 0) ≤ (Follow.part p).owed + columns := by
  cases p with
  | lamed joined => cases joined <;> grind [Part.before?, Part.join, Follow.owed]
  | ya joined => cases joined <;> grind [Part.before?, Part.join, Follow.owed]
  | orkhonI joined => cases joined <;> grind [Part.before?, Part.join, Follow.owed]
  | _ => grind [Part.before?, Part.join, Follow.owed]

/-- A character without a style leaves no more to be taken back than what was open and what it is counted for. -/
theorem owed_stepPlain (c : Char) (f : Follow) : (stepPlain c f).2.owed ≤ f.owed + (stepPlain c f).1 := by
  have halone : (stepAlone c).2.owed ≤ f.owed + (stepAlone c).1 := by
    have h := owed_stepAlone c
    have hf := f.owed_nonneg
    omega
  cases f with
  | part p =>
    simp only [stepPlain]
    split
    · next columns q hbefore => exact owed_before? hbefore
    · next columns hbefore => exact owed_before? hbefore
    · exact halone
  | joinedFlags odd => cases odd <;> grind [stepPlain, Follow.owed]
  | _ =>
    simp only [stepPlain]
    repeat' split
    all_goals grind [Follow.owed]

/-- Forgetting the style of what follows leaves no more to be taken back. -/
theorem owed_base_le (a : Ahead) : a.base.follow.owed ≤ a.follow.owed := by
  unfold Ahead.base
  split
  · exact Int.le_refl _
  · exact a.follow.owed_nonneg

/-- Asking for the style of an emoji leaves no more to be taken back. -/
theorem owed_askEmojiStyle_le (a : Ahead) : a.askEmojiStyle.follow.owed ≤ a.follow.owed := by
  unfold Ahead.askEmojiStyle
  split
  · exact Int.le_refl _
  · exact owed_base_le a

/-- A character with a style leaves no more to be taken back than what was open and what it is counted for. -/
theorem owed_stepStyled (c : Char) (a : Ahead) : (stepStyled c a).2.follow.owed ≤ a.follow.owed + (stepStyled c a).1 := by
  have hnothing : Ahead.nothing.follow.owed = 0 := rfl
  have hnonneg := a.follow.owed_nonneg
  have hbase := owed_base_le a
  unfold stepStyled
  split
  · simp only
    omega
  split
  · have hstyle := owed_askEmojiStyle_le a
    simp only
    omega
  split
  · simp only [Ahead.askTextStyle]
    omega
  split
  · simp only [Ahead.askFullwidth]
    omega
  split
  · simp only
    omega
  split
  · simp only
    omega
  · exact owed_stepPlain c a.follow

/-- What is counted always covers what is owed. -/
theorem owed_le_step {c : Char} {n : Int} {a : Ahead} (h : a.follow.owed ≤ n) :
    (step c (n, a)).2.follow.owed ≤ (step c (n, a)).1 := by
  simp only [step]
  split
  · have hnonneg := a.follow.owed_nonneg
    have hemoji : (Ahead.plain .emoji).follow.owed = 0 := rfl
    split <;> (simp only; omega)
  · split
    · have hstyled := owed_stepStyled c { a.base with emojiStyle := false }
      have hbase := owed_base_le a
      simp only at hstyled ⊢
      omega
    · have hstyled := owed_stepStyled c a
      simp only
      omega

/-- No text leaves more to be taken back than it is counted for, by the steps from its end. -/
theorem owed_le_foldr_step (t : Text) : (t.foldr step (0, .nothing)).2.follow.owed ≤ (t.foldr step (0, .nothing)).1 := by
  induction t with
  | nil => decide
  | cons c t ih => exact owed_le_step ih

/-- A step adds its columns to what has been counted. -/
theorem step_add (c : Char) (n : Int) (a : Ahead) : step c (n, a) = (n + (step c (0, a)).1, (step c (0, a)).2) := by
  simp only [step]
  split
  · split <;> simp
  · simp

/-- What was counted before a text is only added to what is counted for it. -/
theorem foldr_step_add (t : Text) (n : Int) (a : Ahead) :
    t.foldr step (n, a) = (n + (t.foldr step (0, a)).1, (t.foldr step (0, a)).2) := by
  induction t with
  | nil => simp
  | cons c t ih =>
    rw [List.foldr_cons, List.foldr_cons, ih, step_add, step_add c (t.foldr step (0, a)).1, Int.add_assoc]

/-- A space is counted and ends everything. -/
theorem step_space (n : Int) (a : Ahead) : step ' ' (n, a) = (n + 1, .nothing) := by
  have hstyle : takesEmojiStyle ' ' = false := by decide +kernel
  unfold step
  rw [hstyle]
  simp [stepStyled]

end Unicode

namespace Text

open Unicode

/-- A line takes as many columns as are counted: the count is never negative. -/
theorem natCast_width (t : Text) : (width t : Int) = (t.foldr step (0, .nothing)).1 := by
  refine Int.toNat_of_nonneg ?_
  exact Int.le_trans (Follow.owed_nonneg _) (owed_le_foldr_step t)

/-- What stands before a space and what stands after it are as wide as they are alone. -/
theorem width_append_space (t u : Text) : width (t ++ ' ' :: u) = width t + 1 + width u := by
  have hwidth : (width (t ++ ' ' :: u) : Int) = width t + 1 + width u := by
    rw [natCast_width, List.foldr_append, List.foldr_cons, step_space, foldr_step_add, ← natCast_width, ← natCast_width]
    omega
  omega

/-- Spaces take a column each, whatever follows them. -/
theorem width_spaces_append (n : Nat) (u : Text) : width (spaces n ++ u) = n + width u := by
  induction n with
  | zero => simp [spaces]
  | succ n ih =>
    have hcons : spaces (n + 1) ++ u = [] ++ ' ' :: (spaces n ++ u) := rfl
    have hempty : width [] = 0 := rfl
    rw [hcons, width_append_space, ih, hempty]
    omega

/-- What stands before spaces and what stands after them are as wide as they are alone, as long as there is a space. -/
theorem width_append_spaces {n : Nat} (h : 0 < n) (t u : Text) : width (t ++ spaces n ++ u) = width t + n + width u := by
  obtain ⟨m, rfl⟩ : ∃ m, n = m + 1 := ⟨n - 1, by omega⟩
  have hcons : t ++ spaces (m + 1) ++ u = t ++ ' ' :: (spaces m ++ u) := by simp [spaces, List.replicate_succ]
  rw [hcons, width_append_space, width_spaces_append]
  omega

end Text

end TaintSummary
