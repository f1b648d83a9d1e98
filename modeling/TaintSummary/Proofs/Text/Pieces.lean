import TaintSummary.Text

/-!
# Pieces of a text

`pieces` and `join` undo each other: `join_pieces` puts the pieces of a text together again, and here a text that is joined
from pieces without the separator is cut into these pieces. So a text has the pieces `ps` exactly when it is joined from them
and none of them holds the separator (`pieces_eq_iff`).
-/

namespace TaintSummary.Text

/-- A separator at the start of a text ends an empty piece. -/
theorem pieces_cons_self (sep : Char) (t : Text) : pieces sep (sep :: t) = [] :: pieces sep t := by
  rw [pieces]
  split
  · exact absurd ‹_› (pieces_ne_nil sep t)
  · next h => rw [if_pos rfl, h]

/-- Any other character at the start belongs to the first piece. -/
theorem pieces_cons_of_ne {sep c : Char} {t piece : Text} {more : List Text} (hc : c ≠ sep)
    (h : pieces sep t = piece :: more) : pieces sep (c :: t) = (c :: piece) :: more := by
  rw [pieces, h]
  exact if_neg hc

/-- A text without the separator is its only piece. -/
theorem pieces_of_not_mem {sep : Char} {t : Text} (h : sep ∉ t) : pieces sep t = [t] := by
  induction t with
  | nil => rfl
  | cons c rest ih =>
    have hc : c ≠ sep := fun e => h (by simp [e])
    exact pieces_cons_of_ne hc (ih fun hm => h (List.mem_cons_of_mem c hm))

/-- What stands before the first separator is the first piece. -/
theorem pieces_append_cons {sep : Char} {a rest : Text} (h : sep ∉ a) :
    pieces sep (a ++ sep :: rest) = a :: pieces sep rest := by
  induction a with
  | nil => exact pieces_cons_self sep rest
  | cons c a ih =>
    have hc : c ≠ sep := fun e => h (by simp [e])
    exact pieces_cons_of_ne hc (ih fun hm => h (List.mem_cons_of_mem c hm))

/-- A separator parts the pieces before it from those after it. -/
theorem pieces_append (sep : Char) (t u : Text) : pieces sep (t ++ sep :: u) = pieces sep t ++ pieces sep u := by
  induction t with
  | nil => exact pieces_cons_self sep u
  | cons c t ih =>
    by_cases hc : c = sep
    · rw [hc, List.cons_append, pieces_cons_self, pieces_cons_self, ih, List.cons_append]
    · obtain ⟨piece, more, hp⟩ := List.exists_cons_of_ne_nil (pieces_ne_nil sep t)
      rw [hp, List.cons_append] at ih
      rw [List.cons_append, pieces_cons_of_ne hc ih, pieces_cons_of_ne hc hp, List.cons_append]

/-- A text joined from pieces without the separator is cut into these pieces. -/
theorem pieces_join {sep : Char} {ps : List Text} (hne : ps ≠ []) (h : ∀ p ∈ ps, sep ∉ p) :
    pieces sep (join [sep] ps) = ps := by
  induction ps with
  | nil => exact absurd rfl hne
  | cons p more ih =>
    have hp : sep ∉ p := h p (by simp)
    cases more with
    | nil => exact pieces_of_not_mem hp
    | cons q more =>
      have hjoin : join [sep] (p :: q :: more) = p ++ sep :: join [sep] (q :: more) := by simp [join]
      rw [hjoin, pieces_append_cons hp, ih (by simp) fun r hr => h r (List.mem_cons_of_mem p hr)]

/-- The pieces of a text are the texts without the separator from which it is joined. -/
theorem pieces_eq_iff {sep : Char} {t : Text} {ps : List Text} :
    pieces sep t = ps ↔ ps ≠ [] ∧ t = join [sep] ps ∧ ∀ p ∈ ps, sep ∉ p := by
  constructor
  · rintro rfl
    exact ⟨pieces_ne_nil sep t, (join_pieces sep t).symm, fun p hp => mem_pieces hp⟩
  · rintro ⟨hne, rfl, h⟩
    exact pieces_join hne h

/-- A text is its only piece exactly when it does not hold the separator. -/
theorem pieces_eq_singleton_iff {sep : Char} {t p : Text} : pieces sep t = [p] ↔ t = p ∧ sep ∉ p := by
  simp [pieces_eq_iff, join]

/-- A text has two pieces exactly when it holds one separator, between them. -/
theorem pieces_eq_pair_iff {sep : Char} {t p q : Text} :
    pieces sep t = [p, q] ↔ t = p ++ sep :: q ∧ sep ∉ p ∧ sep ∉ q := by
  simp [pieces_eq_iff, join]

/-- A text has one piece more than it holds separators. -/
theorem length_pieces (sep : Char) (t : Text) : (pieces sep t).length = t.count sep + 1 := by
  induction t with
  | nil => rfl
  | cons c rest ih =>
    by_cases hc : c = sep
    · rw [hc, pieces_cons_self, List.length_cons, ih, List.count_cons_self]
    · obtain ⟨piece, more, hp⟩ := List.exists_cons_of_ne_nil (pieces_ne_nil sep rest)
      rw [pieces_cons_of_ne hc hp, List.count_cons_of_ne hc, ← ih, hp, List.length_cons, List.length_cons]

/-! ## Before a mark -/

/-- The text before the first mark, or all of it when it holds none. -/
def before (mark : Char) (t : Text) : Text := t.takeWhile (· ≠ mark)

theorem before_cons_of_ne {mark c : Char} (h : c ≠ mark) (t : Text) : before mark (c :: t) = c :: before mark t :=
  List.takeWhile_cons_of_pos (decide_eq_true h)

/-- A text without the mark is kept whole. -/
theorem before_append {mark : Char} {t : Text} (h : mark ∉ t) (u : Text) : before mark (t ++ u) = t ++ before mark u :=
  List.takeWhile_append_of_pos fun _ hc => decide_eq_true fun e => h (e ▸ hc)

theorem before_append_cons {mark : Char} {t : Text} (h : mark ∉ t) (u : Text) : before mark (t ++ mark :: u) = t := by
  rw [before_append h, before, List.takeWhile_cons_of_neg (by simp), List.append_nil]

theorem before_eq_self {mark : Char} {t : Text} (h : mark ∉ t) : before mark t = t := by
  simpa [before] using before_append h []

/-- What stands after a mark makes no difference. -/
theorem before_append_of_mem {mark : Char} {t : Text} (h : mark ∈ t) (u : Text) : before mark (t ++ u) = before mark t := by
  obtain ⟨a, b, rfl, ha⟩ := List.eq_append_cons_of_mem h
  rw [List.append_assoc, List.cons_append, before_append_cons ha, before_append_cons ha]

end TaintSummary.Text
