import TaintSummary.Text

/-!
# The order of bytes

Texts are compared by their characters. Their bytes in UTF-8 are in the same order (`compare_eq_lt_iff`): a greater character has a
longer encoding, which starts with a greater byte, or one of the same length with greater digits.
-/

namespace TaintSummary.Text

/-- The bytes of a text in UTF-8. -/
def utf8 (t : Text) : List UInt8 := t.flatMap String.utf8EncodeChar

theorem utf8_cons (c : Char) (t : Text) : utf8 (c :: t) = String.utf8EncodeChar c ++ utf8 t := rfl

/-- A code point has at most 21 bits, so that four bytes hold it. -/
theorem toNat_val_lt (c : Char) : c.val.toNat < 0x110000 := by
  have hvalid := c.valid
  simp only [UInt32.isValidChar, Nat.isValidChar] at hvalid
  omega

/-- The smaller of two characters has the smaller bytes, whatever comes after them. -/
theorem utf8EncodeChar_append_lt {c d : Char} (h : c < d) (s t : List UInt8) :
    String.utf8EncodeChar c ++ s < String.utf8EncodeChar d ++ t := by
  have hlt : c.val.toNat < d.val.toNat := h
  have hd : d.val.toNat < 0x110000 := toNat_val_lt d
  unfold String.utf8EncodeChar
  generalize c.val.toNat = n at hlt ⊢
  generalize d.val.toNat = m at hlt hd ⊢
  -- the bytes hold digits to the base 64, the most significant first
  have hsecond (k : Nat) : k / 4096 = k / 64 / 64 := by omega
  have hthird (k : Nat) : k / 262144 = k / 64 / 64 / 64 := by omega
  have hbyte : ∀ k < 256, (UInt8.ofNat k).toNat = k := fun k => UInt8.toNat_ofNat_of_lt'
  simp only [hsecond, hthird]
  -- one case for each pair of lengths; the pairs with the longer encoding first are against `n < m`
  repeat' split
  all_goals
    simp (disch := omega) only [List.cons_append, List.nil_append, List.cons_lt_cons_iff, UInt8.lt_iff_toNat_lt,
      ← UInt8.toNat_inj, hbyte]
    omega

/-- Characters are compared by their code points. -/
theorem compare_char_eq_lt_iff {c d : Char} : compare c d = .lt ↔ c < d :=
  compareOfLessAndEq_eq_lt

/-- A text comes before another one when its bytes do. -/
theorem utf8_lt_utf8_of_compare {s t : Text} (h : compare s t = .lt) : utf8 s < utf8 t := by
  rw [List.compare_eq_compareLex] at h
  induction s generalizing t with
  | nil =>
    cases t with
    | nil => cases h
    | cons d t =>
      obtain ⟨b, bs, hbytes⟩ := List.exists_cons_of_ne_nil (@String.utf8EncodeChar_ne_nil d)
      rw [utf8_cons, hbytes]
      exact List.nil_lt_cons b _
  | cons c s ih =>
    cases t with
    | nil => cases h
    | cons d t =>
      rw [List.compareLex_cons_cons, Ordering.then_eq_lt] at h
      rw [utf8_cons, utf8_cons]
      rcases h with hlt | ⟨heq, hrest⟩
      · exact utf8EncodeChar_append_lt (compare_char_eq_lt_iff.mp hlt) _ _
      · rw [Std.LawfulEqOrd.eq_of_compare heq]
        exact List.append_left_lt (ih hrest)

/-- Texts are in the order of their bytes. -/
theorem compare_eq_lt_iff {s t : Text} : compare s t = .lt ↔ utf8 s < utf8 t := by
  refine ⟨utf8_lt_utf8_of_compare, fun hlt => ?_⟩
  cases hcompare : compare s t with
  | lt => rfl
  | eq =>
    rw [Std.LawfulEqOrd.eq_of_compare hcompare] at hlt
    exact absurd hlt (List.lt_irrefl _)
  | gt => exact absurd hlt (List.lt_asymm (utf8_lt_utf8_of_compare (Std.OrientedCmp.lt_of_gt hcompare)))

end TaintSummary.Text
