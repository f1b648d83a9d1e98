/-!
# Text

Text is a list of characters, so that a rule about text is a statement about lists. Here: cutting text at a separator,
comparing it without regard to ASCII case, and measuring it in bytes. `join_pieces` says that cutting at a separator
loses nothing, `mem_pieces` that no piece holds the separator, and `cut?_eq_some_iff` where the first cut goes.
-/

namespace TaintSummary

/-- A list of Unicode characters. The order of texts is the lexicographic order of code points. -/
abbrev Text := List Char

namespace Text

/-- The pieces between the separators: one piece more than there are separators. -/
def pieces (sep : Char) : Text → List Text
  | [] => [[]]
  | c :: rest =>
    match pieces sep rest with
    | [] => [[]]
    | piece :: more => if c = sep then [] :: piece :: more else (c :: piece) :: more

/-- The texts one after the other, with `sep` between neighbours. -/
def join (sep : Text) : List Text → Text
  | [] => []
  | [t] => t
  | t :: u :: more => t ++ sep ++ join sep (u :: more)

/-- The text before the first `sep` and the text after it; `none` when there is no `sep`. -/
def cut? (sep : Char) : Text → Option (Text × Text)
  | [] => none
  | c :: rest => if c = sep then some ([], rest) else (cut? sep rest).map fun (a, b) => (c :: a, b)

/-- The two texts differ at most in the case of ASCII letters. -/
def eqIgnoringCase (a b : Text) : Bool := a.map Char.toLower = b.map Char.toLower

/-- The number of bytes of the text in UTF-8. -/
def byteSize (t : Text) : Nat := (t.flatMap String.utf8EncodeChar).length

/-- A natural number in decimal digits. -/
def ofNat (n : Nat) : Text := Nat.toDigits 10 n

/-- `n` spaces. -/
def spaces (n : Nat) : Text := List.replicate n ' '

theorem pieces_ne_nil (sep : Char) (t : Text) : pieces sep t ≠ [] := by
  cases t with
  | nil => simp [pieces]
  | cons c rest =>
    unfold pieces
    split
    · simp
    · split <;> simp

/-- Cutting at a separator and joining with it gives the text back. -/
theorem join_pieces (sep : Char) (t : Text) : join [sep] (pieces sep t) = t := by
  induction t with
  | nil => rfl
  | cons c rest ih =>
    unfold pieces
    split
    · exact absurd ‹_› (pieces_ne_nil sep rest)
    · next piece more h =>
      rw [h] at ih
      split
      · next hc => subst hc; simp [join, ih]
      · cases more with
        | nil => simp_all [join]
        | cons u us => simp_all [join]

/-- No piece holds the separator. -/
theorem mem_pieces {sep : Char} {t p : Text} (h : p ∈ pieces sep t) : sep ∉ p := by
  induction t generalizing p with
  | nil => simp_all [pieces]
  | cons c rest ih =>
    unfold pieces at h
    split at h
    · simp_all
    · next piece more hp =>
      rw [hp] at ih
      split at h
      · rcases List.mem_cons.mp h with h | h
        · simp [h]
        · exact ih h
      · next hc =>
        rcases List.mem_cons.mp h with h | h
        · subst h
          have : sep ∉ piece := ih (by simp)
          simp only [List.mem_cons, not_or]
          exact ⟨fun e => hc e.symm, this⟩
        · exact ih (List.mem_cons_of_mem _ h)

/-- A text is cut at its first separator: what comes before holds none, and nothing else is lost. -/
theorem cut?_eq_some_iff {sep : Char} {t a b : Text} : cut? sep t = some (a, b) ↔ t = a ++ sep :: b ∧ sep ∉ a := by
  induction t generalizing a with
  | nil => simp [cut?]
  | cons c rest ih =>
    unfold cut?
    split
    · next hc =>
      subst hc
      cases a with
      | nil => simp
      | cons d a =>
        simp only [Option.some.injEq, Prod.mk.injEq, List.cons_append, List.cons.injEq, List.mem_cons, not_or]
        exact ⟨fun h => absurd h.1 (by simp), fun h => absurd h.1.1 h.2.1⟩
    · next hc =>
      cases a with
      | nil =>
        simp only [Option.map_eq_some_iff, Prod.mk.injEq, reduceCtorEq, false_and, and_false, exists_false,
          List.nil_append, List.cons.injEq, false_iff, not_and]
        exact fun h => absurd h.1 hc
      | cons d a =>
        simp only [Option.map_eq_some_iff, Prod.exists, Prod.mk.injEq, List.cons.injEq, List.cons_append, List.mem_cons,
          not_or]
        constructor
        · rintro ⟨x, y, h, ⟨rfl, rfl⟩, rfl⟩
          obtain ⟨h, hx⟩ := ih.mp h
          exact ⟨⟨rfl, h⟩, fun e => hc e.symm, hx⟩
        · rintro ⟨⟨rfl, h⟩, _, hx⟩
          exact ⟨a, b, ih.mpr ⟨h, hx⟩, ⟨rfl, rfl⟩, rfl⟩

/-- A text without the separator is not cut. -/
theorem cut?_eq_none_iff {sep : Char} {t : Text} : cut? sep t = none ↔ sep ∉ t := by
  induction t with
  | nil => simp [cut?]
  | cons c rest ih =>
    unfold cut?
    split
    · next hc => simp [hc]
    · next hc =>
      rw [Option.map_eq_none_iff, ih, List.mem_cons, not_or]
      exact ⟨fun h => ⟨fun e => hc e.symm, h⟩, And.right⟩

end Text

end TaintSummary
