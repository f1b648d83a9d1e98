import TaintSummary.Proofs.Text.ByteOrder
import TaintSummary.Proofs.Text.Delimited
import TaintSummary.Report.Yaml

/-!
# YAML texts between quotes

Between single quotes a quote is doubled and what follows a break is indented; between double quotes characters are escaped. In
either case the closing quote can be told from what stands before it, and what stands between the quotes shows which text was written
(`delimited_singleQuotedBody`, `delimited_doubleQuoted`).
-/

namespace TaintSummary

namespace Text

theorem length_hexPadded (capital : Bool) (width n : Nat) : (hexPadded capital width n).length = width := by
  induction width generalizing n with
  | zero => rfl
  | succ width ih => rw [hexPadded, List.length_append, ih, List.length_singleton]

/-- Numbers for which there are enough digits are told apart by them. -/
theorem hexPadded_inj (capital : Bool) {width n n' : Nat} (hn : n < Nat.pow 16 width) (hn' : n' < Nat.pow 16 width)
    (h : hexPadded capital width n = hexPadded capital width n') : n = n' := by
  induction width generalizing n n' with
  | zero => exact (Nat.lt_one_iff.mp hn).trans (Nat.lt_one_iff.mp hn').symm
  | succ width ih =>
    obtain ⟨hhigh, hlow⟩ := List.append_inj' h rfl
    have hdiv : n / 16 = n' / 16 := ih (Nat.div_lt_of_lt_mul ((Nat.mul_comm _ _).subst hn))
      (Nat.div_lt_of_lt_mul ((Nat.mul_comm _ _).subst hn')) hhigh
    have hmod : n % 16 = n' % 16 := by
      apply Option.some.inj
      rw [← hexValue?_hexDigit capital _ (Nat.mod_lt n (by decide)), List.singleton_inj.mp hlow,
        hexValue?_hexDigit capital _ (Nat.mod_lt n' (by decide))]
    omega

end Text

namespace Yaml

/-- What stands in front of a character: at the start of a line the indentation, unless the character is a break. -/
def indentBefore (atLineStart : Bool) (c : Char) : Text := if atLineStart && !isBreak c then indent else []

/-- The indentation does not hide with which character a line goes on. -/
theorem indentBefore_append_inj {atLineStart : Bool} {c c' : Char} {rest rest' : Text}
    (h : indentBefore atLineStart c ++ c :: rest = indentBefore atLineStart c' ++ c' :: rest') : c = c' ∧ rest = rest' := by
  unfold indentBefore at h
  cases atLineStart with
  | false => exact List.cons.inj h
  | true =>
    cases hc : isBreak c <;> cases hc' : isBreak c' <;> simp only [hc, hc'] at h
    · exact List.cons.inj (List.append_cancel_left h)
    · -- one line begins with a space and the other one is empty
      obtain ⟨rfl, -⟩ := List.cons.inj h
      cases hc'
    · obtain ⟨rfl, -⟩ := List.cons.inj h
      cases hc
    · exact List.cons.inj h

section SingleQuoted

/-- The closing quote is written like a character of the text: indented at the start of a line. -/
theorem singleQuotedBody_nil (atLineStart : Bool) (rest : Text) :
    singleQuotedBody atLineStart [] ++ '\x27' :: rest = indentBefore atLineStart '\x27' ++ '\x27' :: rest := by
  cases atLineStart <;> rfl

/-- A quote in the text is written twice, and any other character once. -/
theorem singleQuotedBody_cons (atLineStart : Bool) (c : Char) (t : Text) :
    singleQuotedBody atLineStart (c :: t) =
      indentBefore atLineStart c ++ c :: ((if c = '\x27' then ['\x27'] else []) ++ singleQuotedBody (isBreak c) t) := by
  have hquote : isBreak '\x27' = false := by decide
  rw [singleQuotedBody, indentBefore]
  cases hc : isBreak c with
  | true =>
    have hne : c ≠ '\x27' := fun h => by rw [h, hquote] at hc; cases hc
    simp [hne]
  | false => by_cases hne : c = '\x27' <;> simp [hne]

/-- Up to a single quote that no other follows the text between single quotes shows what was written. -/
theorem delimited_singleQuotedBody (atLineStart : Bool) :
    Text.Delimited (fun t => singleQuotedBody atLineStart t ++ ['\x27']) fun rest => rest.head? ≠ some '\x27' := by
  intro t t' rest rest' hrest hrest' h
  simp only [List.append_assoc, List.singleton_append] at h
  -- the closing quote takes the place of a character, and the only characters like it are followed by another quote
  induction t generalizing atLineStart t' with
  | nil =>
    cases t' with
    | nil =>
      rw [singleQuotedBody_nil, singleQuotedBody_nil] at h
      exact ⟨rfl, (indentBefore_append_inj h).2⟩
    | cons c' t' =>
      rw [singleQuotedBody_nil, singleQuotedBody_cons, List.append_assoc] at h
      obtain ⟨rfl, hmore⟩ := indentBefore_append_inj h
      exact absurd (by rw [hmore]; rfl) hrest
  | cons c t ih =>
    cases t' with
    | nil =>
      rw [singleQuotedBody_nil, singleQuotedBody_cons, List.append_assoc] at h
      obtain ⟨rfl, hmore⟩ := indentBefore_append_inj h
      exact absurd (by rw [← hmore]; rfl) hrest'
    | cons c' t' =>
      rw [singleQuotedBody_cons, singleQuotedBody_cons, List.append_assoc, List.append_assoc] at h
      obtain ⟨rfl, hmore⟩ := indentBefore_append_inj h
      obtain ⟨rfl, hrests⟩ := ih _ (by simpa using hmore)
      exact ⟨rfl, hrests⟩

end SingleQuoted

section DoubleQuoted

/-- The marks for numbers, and how many digits follow each of them. -/
def numberMarks : List (Char × Nat) := [('x', 2), ('u', 4), ('U', 8)]

/-- The letters for characters are different, and none of them is a mark for a number. -/
theorem exists_escapes : ∃ escapes : List (Char × Char),
    (∀ c, escapeLetter? c = (escapes.find? fun p => p.1 = c).map Prod.snd) ∧
      (∀ p ∈ escapes, ∀ q ∈ escapes, p.2 = q.2 → p.1 = q.1) ∧
      ∀ p ∈ escapes, ∀ m ∈ numberMarks, p.2 ≠ m.1 :=
  ⟨_, fun _ => rfl, by decide, by decide⟩

/-- A character is known by its letter. -/
theorem escapeLetter?_inj {c c' x : Char} (h : escapeLetter? c = some x) (h' : escapeLetter? c' = some x) : c = c' := by
  obtain ⟨escapes, hfind, hinj, -⟩ := exists_escapes
  rw [hfind, Option.map_eq_some_iff] at h h'
  obtain ⟨p, hp, rfl⟩ := h
  obtain ⟨q, hq, hletter⟩ := h'
  have hpc : p.1 = c := by simpa using List.find?_some hp
  have hqc : q.1 = c' := by simpa using List.find?_some hq
  rw [← hpc, ← hqc, hinj p (List.mem_of_find?_eq_some hp) q (List.mem_of_find?_eq_some hq) hletter.symm]

/-- A letter for a character is never taken for the mark of a number. -/
theorem escapeLetter?_ne_mark {c x : Char} (h : escapeLetter? c = some x) : ∀ m ∈ numberMarks, x ≠ m.1 := by
  obtain ⟨escapes, hfind, -, hmarks⟩ := exists_escapes
  rw [hfind, Option.map_eq_some_iff] at h
  obtain ⟨p, hp, rfl⟩ := h
  exact hmarks p (List.mem_of_find?_eq_some hp)

/-- How a character is written between double quotes: by itself, as a letter or as a number. -/
inductive Escapes (c : Char) : Text → Prop
  | itself : c ≠ '"' → c ≠ '\\' → Escapes c [c]
  | letter {x : Char} : escapeLetter? c = some x → Escapes c ['\\', x]
  | number {m : Char × Nat} : m ∈ numberMarks → c.toNat < Nat.pow 16 m.2 →
      Escapes c ('\\' :: m.1 :: Text.hexPadded true m.2 c.toNat)

/-- What is written between double quotes for a character is one of its escapes. -/
theorem escapes_doubleQuotedChar (c : Char) : Escapes c (doubleQuotedChar c) := by
  have hbound : c.toNat < 0x110000 := Text.toNat_val_lt c
  unfold doubleQuotedChar
  split
  · next h =>
    simp only [Bool.and_eq_true, decide_eq_true_eq] at h
    exact .itself h.1.2 h.2
  · split
    · next hletter => exact .letter hletter
    · split
      · next h => exact .number (m := ('x', 2)) (by decide) (Nat.lt_of_le_of_lt h (by decide))
      · split
        · next h => exact .number (m := ('u', 4)) (by decide) (Nat.lt_of_le_of_lt h (by decide))
        · exact .number (m := ('U', 8)) (by decide) (Nat.lt_of_lt_of_le hbound (by decide))

/-- A written character shows where it ends, whatever follows it. -/
theorem Escapes.append_inj {c c' : Char} {t t' rest rest' : Text} (h : Escapes c t) (h' : Escapes c' t')
    (heq : t ++ rest = t' ++ rest') : c = c' ∧ rest = rest' := by
  cases h with
  | itself _ hslash =>
    cases h' with
    | itself => exact List.cons.inj heq
    | letter => exact absurd (List.cons.inj heq).1 hslash
    | number => exact absurd (List.cons.inj heq).1 hslash
  | letter hletter =>
    cases h' with
    | itself _ hslash => exact absurd (List.cons.inj heq).1.symm hslash
    | letter hletter' =>
      obtain ⟨hsame, hrests⟩ := List.cons.inj (List.cons.inj heq).2
      exact ⟨escapeLetter?_inj hletter (hsame ▸ hletter'), hrests⟩
    | number hmark =>
      exact absurd (List.cons.inj (List.cons.inj heq).2).1 (escapeLetter?_ne_mark hletter _ hmark)
  | @number m hmark hlt =>
    cases h' with
    | itself _ hslash => exact absurd (List.cons.inj heq).1.symm hslash
    | letter hletter =>
      exact absurd (List.cons.inj (List.cons.inj heq).2).1.symm (escapeLetter?_ne_mark hletter _ hmark)
    | @number m' hmark' hlt' =>
      obtain ⟨hm, hdigits⟩ := List.cons.inj (List.cons.inj heq).2
      -- the mark tells how many digits there are
      have hsame : ∀ m ∈ numberMarks, ∀ m' ∈ numberMarks, m.1 = m'.1 → m = m' := by decide
      obtain rfl := hsame m hmark m' hmark' hm
      obtain ⟨hnumber, hrests⟩ := List.append_inj hdigits (by rw [Text.length_hexPadded, Text.length_hexPadded])
      exact ⟨Char.toNat_inj.mp (Text.hexPadded_inj true hlt hlt' hnumber), hrests⟩

/-- No written character begins with a double quote. -/
theorem Escapes.head_ne {c : Char} {t rest : Text} (h : Escapes c t) : (t ++ rest).head? ≠ some '"' := by
  cases h with
  | itself hquote => simpa using hquote
  | letter => simp
  | number => simp

/-- Up to the first double quote the text between double quotes shows what was written. -/
theorem delimited_doubleQuoted :
    Text.Delimited (List.flatMap doubleQuotedChar) fun rest => rest.head? = some '"' := by
  have hchar : Text.Delimited doubleQuotedChar fun _ => True := fun c c' _ _ _ _ h =>
    (escapes_doubleQuotedChar c).append_inj (escapes_doubleQuotedChar c') h
  exact hchar.flatMap (fun _ _ => trivial) (fun _ _ => trivial) fun c _ => (escapes_doubleQuotedChar c).head_ne

end DoubleQuoted

end Yaml

end TaintSummary
