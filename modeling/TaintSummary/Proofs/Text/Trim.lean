import TaintSummary.Unicode.WhiteSpace

/-!
# Text without white space at its ends

Trimming takes nothing but white space from the ends of a text (`exists_eq_trim`), and it takes all of it: a word without white
space is what is left of itself with white space around it (`trim_eq`). What is not white space, the `ink` of a text, is all left.
-/

namespace TaintSummary.Text

/-- The white space before a text and what is left of the text. -/
theorem takeWhile_append_trimStart (t : Text) : t.takeWhile Unicode.isBlank ++ trimStart t = t :=
  List.takeWhile_append_dropWhile

/-- Only white space is missing from the end. -/
theorem exists_trimEnd_append (t : Text) : ∃ after, isBlank after = true ∧ trimEnd t ++ after = t := by
  refine ⟨(t.reverse.takeWhile Unicode.isBlank).reverse, ?_, ?_⟩
  · rw [isBlank, List.all_reverse]
    exact List.all_takeWhile
  · rw [trimEnd, ← List.reverse_append, List.takeWhile_append_dropWhile, List.reverse_reverse]

/-- Only white space is missing from a trimmed text. -/
theorem exists_eq_trim (t : Text) :
    ∃ before after, t = before ++ trim t ++ after ∧ isBlank before = true ∧ isBlank after = true := by
  obtain ⟨after, hafter, htrim⟩ := exists_trimEnd_append (trimStart t)
  refine ⟨t.takeWhile Unicode.isBlank, after, ?_, List.all_takeWhile, hafter⟩
  rw [List.append_assoc, trim, htrim, takeWhile_append_trimStart]

/-- No white space is left at the end of a trimmed text. -/
theorem not_isBlank_of_getLast?_trimEnd {t : Text} {c : Char} (h : (trimEnd t).getLast? = some c) :
    Unicode.isBlank c = false := by
  rw [trimEnd, List.getLast?_reverse] at h
  have hhead := List.head?_dropWhile_not Unicode.isBlank t.reverse
  rwa [h] at hhead

/-- White space at the end makes no difference once it is trimmed. -/
theorem trimEnd_append_of_isBlank (t : Text) {u : Text} (h : isBlank u = true) : trimEnd (t ++ u) = trimEnd t := by
  have hblank : ∀ c ∈ u.reverse, Unicode.isBlank c = true :=
    fun c hc => List.all_eq_true.mp h c (List.mem_reverse.mp hc)
  rw [trimEnd, List.reverse_append, List.dropWhile_append_of_pos hblank, trimEnd]

/-- Nothing is trimmed from what stands before a character that is left. -/
theorem trimEnd_append_of_not_isBlank (t : Text) {u : Text} (h : isBlank u = false) : trimEnd (t ++ u) = t ++ trimEnd u := by
  have hne : ¬(u.reverse.dropWhile Unicode.isBlank).isEmpty = true := by
    rw [List.isEmpty_iff, dropWhile_eq_nil, List.all_reverse]
    exact Bool.eq_false_iff.mp h
  rw [trimEnd, List.reverse_append, List.dropWhile_append, if_neg hne, List.reverse_append, List.reverse_reverse, trimEnd]

theorem trimEnd_prefix_self (t : Text) : trimEnd t <+: t := by
  obtain ⟨after, -, htrim⟩ := exists_trimEnd_append t
  exact ⟨after, htrim⟩

/-- Trimming leaves as much of the start of a text as it would leave of it alone. -/
theorem trimEnd_prefix {t u : Text} (h : t <+: u) : trimEnd t <+: trimEnd u := by
  obtain ⟨rest, rfl⟩ := h
  cases hrest : isBlank rest with
  | true => exact (trimEnd_append_of_isBlank t hrest).symm ▸ List.prefix_rfl
  | false =>
    rw [trimEnd_append_of_not_isBlank t hrest]
    exact (trimEnd_prefix_self t).trans (List.prefix_append _ _)

/-- The characters of a text that are not white space. -/
def ink (t : Text) : Text := t.filter fun c => !Unicode.isBlank c

theorem ink_append (t u : Text) : ink (t ++ u) = ink t ++ ink u := List.filter_append t u

theorem ink_flatten (ts : List Text) : ink ts.flatten = ts.flatMap ink := by
  rw [ink, List.filter_flatten, List.flatMap_def]
  rfl

/-- White space is a text without ink. -/
theorem ink_eq_nil_iff {t : Text} : ink t = [] ↔ isBlank t = true := by
  simp [ink, isBlank, List.filter_eq_nil_iff]

/-- Trimming leaves the ink. -/
theorem ink_trimEnd (t : Text) : ink (trimEnd t) = ink t := by
  obtain ⟨after, hafter, htrim⟩ := exists_trimEnd_append t
  have hink : ink t = ink (trimEnd t) ++ ink after := by rw [← ink_append, htrim]
  rw [hink, ink_eq_nil_iff.mpr hafter, List.append_nil]

/-- A separator of white space adds no ink. -/
theorem ink_join {sep : Text} (h : isBlank sep = true) (ts : List Text) : ink (join sep ts) = ts.flatMap ink := by
  induction ts with
  | nil => rfl
  | cons t ts ih =>
    cases ts with
    | nil => simp [join]
    | cons u ts =>
      rw [join, ink_append, ink_append, ih, ink_eq_nil_iff.mpr h, List.append_nil]
      rfl

/-- Nothing is dropped from a text that begins with a word without white space. -/
theorem dropWhile_append_of_word {word : Text} (rest : Text) (hne : word ≠ []) (h : ∀ c ∈ word, Unicode.isBlank c = false) :
    (word ++ rest).dropWhile Unicode.isBlank = word ++ rest := by
  obtain ⟨c, more, rfl⟩ := List.exists_cons_of_ne_nil hne
  have hc : ¬Unicode.isBlank c = true := by simp [h c (by simp)]
  rw [List.cons_append, List.dropWhile_cons_of_neg hc]

/-- A word without white space is left when white space around it is taken away. -/
theorem trim_eq {before word after : Text} (hbefore : isBlank before = true) (hafter : isBlank after = true)
    (hne : word ≠ []) (h : ∀ c ∈ word, Unicode.isBlank c = false) : trim (before ++ word ++ after) = word := by
  have hstart : trimStart (before ++ word ++ after) = word ++ after := by
    rw [trimStart, List.append_assoc, List.dropWhile_append_of_pos (List.all_eq_true.mp hbefore),
      dropWhile_append_of_word after hne h]
  have hend : (after.reverse ++ word.reverse).dropWhile Unicode.isBlank = word.reverse := by
    have hblank : ∀ c ∈ after.reverse, Unicode.isBlank c = true :=
      fun c hc => List.all_eq_true.mp hafter c (List.mem_reverse.mp hc)
    have hword : (word.reverse ++ []).dropWhile Unicode.isBlank = word.reverse ++ [] :=
      dropWhile_append_of_word [] (by simpa using hne) fun c hc => h c (List.mem_reverse.mp hc)
    rw [List.append_nil] at hword
    rw [List.dropWhile_append_of_pos hblank, hword]
  rw [trim, hstart, trimEnd, List.reverse_append, hend, List.reverse_reverse]

/-- White space has no upper case. -/
theorem toLower_of_isBlank {c : Char} (h : Unicode.isBlank c = true) : c.toLower = c := by
  obtain ⟨r, hr, hlow, hhigh⟩ := Unicode.CodeRanges.mem_iff.mp h
  -- no range of white space meets that of the capital letters
  have hcode : ¬(65 ≤ c.toNat ∧ c.toNat ≤ 90) := by
    simp only [Unicode.whiteSpace, List.mem_cons, List.not_mem_nil, or_false] at hr
    rcases hr with rfl | rfl | rfl | rfl | rfl | rfl | rfl | rfl | rfl | rfl <;> simp only at hlow hhigh <;> omega
  refine dif_neg fun hupper => hcode ?_
  have hA : 'A'.toNat ≤ c.toNat := UInt32.le_iff_toNat_le.mp hupper.1
  have hZ : c.toNat ≤ 'Z'.toNat := UInt32.le_iff_toNat_le.mp hupper.2
  exact ⟨hA, hZ⟩

/-- A text that is a word without white space, the case of letters apart, holds no white space. -/
theorem not_isBlank_of_eqIgnoringCase {t word : Text} (h : eqIgnoringCase t word = true)
    (hword : (word.map Char.toLower).any Unicode.isBlank = false) : ∀ c ∈ t, Unicode.isBlank c = false := by
  intro c hc
  rw [eqIgnoringCase, decide_eq_true_eq] at h
  refine Bool.eq_false_iff.mpr fun hblank => ?_
  have hlower : c ∈ word.map Char.toLower := by
    rw [← h, ← toLower_of_isBlank hblank]
    exact List.mem_map_of_mem hc
  exact List.any_eq_false.mp hword c hlower hblank

end TaintSummary.Text
