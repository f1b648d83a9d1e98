import TaintSummary.Json.Literal
import TaintSummary.Json.Printer

/-!
# Reading written strings

`StringLiteral.written` is the literal as which a text is written: every character stands there by itself or escaped, but for
most of the control characters, which are written as units. A written string is read as this literal up to its closing quote
(`read?_escape`), and the literal stands for the text (`text?_written`).
-/

namespace TaintSummary.Json

/-- A character as it is written in a string. -/
def StringPart.written (c : Char) : StringPart :=
  if c.toNat < 0x20 ∧ c ∉ ['\x08', '\x0c', '\n', '\r', '\t'] then .unit c.toNat else .char c

namespace StringLiteral

/-- A text as it is written. -/
def written (t : Text) : StringLiteral := t.map StringPart.written

/-- A number below sixteen to the fourth is read from its four digits. -/
theorem hex4?_hexPadded {n : Nat} (h : n < 0x20) :
    ∃ a b c d, Text.hexPadded false 4 n = [a, b, c, d] ∧ hex4? a b c d = some n := by
  have all : ∀ n < 0x20, hex4? (Text.hexDigit false (n / 16 / 16 / 16 % 16)) (Text.hexDigit false (n / 16 / 16 % 16))
      (Text.hexDigit false (n / 16 % 16)) (Text.hexDigit false (n % 16)) = some n := by decide
  exact ⟨_, _, _, _, rfl, all n h⟩

/-- A character that is not escaped is read as itself. -/
theorem read?_cons_of_ne {c : Char} (hquote : c ≠ '"') (hslash : c ≠ '\\') (hcontrol : ¬c.toNat < 0x20) (rest : Text) :
    read? (c :: rest) = (read? rest).map fun (s, r) => (.char c :: s, r) := by
  rw [read?.eq_def]
  split
  · simp_all
  · simp_all
  · simp_all
  · simp_all
  · next heq =>
    cases heq
    exact if_neg (not_or.mpr ⟨hslash, hcontrol⟩)

/-- A written character is read as it was written. -/
theorem read?_escape (c : Char) (rest : Text) :
    read? (escape c ++ rest) = (read? rest).map fun (s, r) => (.written c :: s, r) := by
  unfold escape
  split
  · next h => subst h; rfl
  split
  · next h => subst h; rfl
  split
  · next h => subst h; rfl
  split
  · next h => subst h; rfl
  split
  · next h => subst h; rfl
  split
  · next h => subst h; rfl
  split
  · next h => subst h; rfl
  split
  · next hcontrol =>
    obtain ⟨x, y, z, w, hdigits, hvalue⟩ := hex4?_hexPadded hcontrol
    have hslash : "\\u".toList = ['\\', 'u'] := by decide
    rw [hdigits, hslash]
    simp only [List.cons_append, List.nil_append]
    rw [read?, hvalue]
    simp [StringPart.written, *]
  · next hquote hslash _ _ _ _ _ hcontrol =>
    rw [List.singleton_append, read?_cons_of_ne hquote hslash hcontrol, StringPart.written, if_neg fun h => hcontrol h.1]

/-- A written string is read up to its closing quote. -/
theorem read?_written (t rest : Text) : read? (t.flatMap escape ++ '"' :: rest) = some (written t, rest) := by
  induction t with
  | nil => rw [List.flatMap_nil, List.nil_append, read?]; rfl
  | cons c t ih =>
    rw [List.flatMap_cons, List.append_assoc, read?_escape, ih]
    rfl

/-- A written text stands for itself. -/
theorem text?_written (t : Text) : text? (written t) = some t := by
  induction t with
  | nil => rfl
  | cons c t ih =>
    rw [written, List.map_cons, StringPart.written]
    split
    · next h =>
      have hhigh : isHighSurrogate c.toNat = false := by
        simp only [isHighSurrogate, Bool.and_eq_false_iff, decide_eq_false_iff_not]
        omega
      have hlow : isLowSurrogate c.toNat = false := by
        simp only [isLowSurrogate, Bool.and_eq_false_iff, decide_eq_false_iff_not]
        omega
      rw [text?.eq_def]
      simp only [hhigh, hlow]
      rw [← written, ih]
      simp [Char.ofNat_toNat]
    · rw [text?, ← written, ih]
      rfl

end StringLiteral

end TaintSummary.Json
