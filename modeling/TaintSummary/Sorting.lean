/-!
# Sorting by a key

A list sorted by a key of its elements; elements with equal keys keep their order. Sorting loses and adds nothing
(`sortBy_perm`), and the keys of the sorted list increase (`sortBy_sorted`).
-/

namespace TaintSummary

variable {α κ : Type} [Ord κ]

/-- Puts an element before the first one whose key is not smaller. -/
def insertBy (key : α → κ) (a : α) : List α → List α
  | [] => [a]
  | b :: rest => if compare (key a) (key b) = .gt then b :: insertBy key a rest else a :: b :: rest

/-- The elements in increasing order of their keys. -/
def sortBy (key : α → κ) (as : List α) : List α := as.foldr (insertBy key) []

/-- Putting an element in loses and adds nothing else. -/
theorem insertBy_perm (key : α → κ) (a : α) (as : List α) : (insertBy key a as).Perm (a :: as) := by
  induction as with
  | nil => exact .refl _
  | cons b rest ih =>
    unfold insertBy
    split
    · exact (ih.cons b).trans (.swap a b rest)
    · exact .refl _

/-- Sorting loses and adds nothing. -/
theorem sortBy_perm (key : α → κ) (as : List α) : (sortBy key as).Perm as := by
  induction as with
  | nil => exact .refl _
  | cons a rest ih => exact (insertBy_perm key a _).trans (ih.cons a)

variable [Std.TransOrd κ]

/-- Putting an element into a sorted list leaves it sorted. -/
theorem insertBy_sorted {key : α → κ} {a : α} {as : List α}
    (h : as.Pairwise fun b c => compare (key b) (key c) ≠ .gt) :
    (insertBy key a as).Pairwise fun b c => compare (key b) (key c) ≠ .gt := by
  induction as with
  | nil => simp [insertBy]
  | cons b rest ih =>
    have ⟨hb, hrest⟩ := List.pairwise_cons.mp h
    unfold insertBy
    split
    · next hgt =>
      refine List.pairwise_cons.mpr ⟨fun c hc => ?_, ih hrest⟩
      rcases List.mem_cons.mp ((insertBy_perm key a rest).mem_iff.mp hc) with hc | hc
      · rw [hc, Std.OrientedCmp.lt_of_gt hgt]
        exact nofun
      · exact hb c hc
    · next hle =>
      refine List.pairwise_cons.mpr ⟨fun c hc => ?_, h⟩
      rcases List.mem_cons.mp hc with hc | hc
      · rw [hc]
        exact hle
      · have hab : (compare (key a) (key b)).isLE := Ordering.isLE_iff_ne_gt.mpr hle
        have hbc : (compare (key b) (key c)).isLE := Ordering.isLE_iff_ne_gt.mpr (hb c hc)
        exact Ordering.isLE_iff_ne_gt.mp (Std.TransCmp.isLE_trans hab hbc)

/-- A sorted list is in increasing order. -/
theorem sortBy_sorted (key : α → κ) (as : List α) :
    (sortBy key as).Pairwise fun a b => compare (key a) (key b) ≠ .gt := by
  induction as with
  | nil => exact .nil
  | cons a rest ih => exact insertBy_sorted ih

end TaintSummary
