import TaintSummary.Proofs.Specifier.Wrapper

/-!
# The canonical form of a specifier

Printing what is read from a text gives the text back, less a `=` without a value (`Taint.print_eq_canonical`). The printed form is
read as the same taint, so that it is a canonical form: two texts mean the same taint exactly when it is the same for both. A
toleration is printed with a wrapper even when it is read from a text without one, and then a `)` in the text gets in the way of
reading it again; nothing else does (`canonical_form`).
-/

namespace TaintSummary

namespace Taint

/-- The text without any `=` that is followed by nothing or by `:`. -/
def canonical : Text → Text
  | [] => []
  | c :: rest => if c = '=' ∧ (rest = [] ∨ rest.head? = some ':') then canonical rest else c :: canonical rest

/-- Up to the first `=` nothing is left out. -/
theorem canonical_append {a : Text} (h : '=' ∉ a) (rest : Text) : canonical (a ++ rest) = a ++ canonical rest := by
  induction a with
  | nil => rfl
  | cons c a ih =>
    have hc : ¬(c = '=' ∧ (a ++ rest = [] ∨ (a ++ rest).head? = some ':')) := fun hc => h (by simp [hc.1])
    rw [List.cons_append, canonical, if_neg hc, ih fun hm => h (List.mem_cons_of_mem c hm), List.cons_append]

/-- A text without an equals sign is canonical as it is. -/
theorem canonical_of_not_mem {t : Text} (h : '=' ∉ t) : canonical t = t := by
  have hwhole := canonical_append h []
  rw [List.append_nil, canonical, List.append_nil] at hwhole
  exact hwhole

theorem canonical_effectPart (effect : Option Effect) : canonical (effectPart effect) = effectPart effect :=
  canonical_of_not_mem (not_mem_effectPart (by simp) effect)

/-- A `=` is left out together with an empty value, and kept before any other. -/
theorem canonical_equals {value : Text} (hcolon : ':' ∉ value) (hequals : '=' ∉ value) (effect : Option Effect) :
    canonical ('=' :: value ++ effectPart effect) =
      (if value = [] then [] else '=' :: value) ++ effectPart effect := by
  cases value with
  | nil =>
    have hdrop : '=' = '=' ∧ (effectPart effect = [] ∨ (effectPart effect).head? = some ':') := by
      cases effect <;> simp [effectPart]
    rw [List.cons_append, List.nil_append, canonical, if_pos hdrop, canonical_effectPart, if_pos rfl, List.nil_append]
  | cons c value =>
    have hc : c ≠ ':' := fun hc => hcolon (by simp [hc])
    have hkeep : ¬('=' = '=' ∧ (c :: value ++ effectPart effect = [] ∨
        (c :: value ++ effectPart effect).head? = some ':')) := by
      simp [hc]
    rw [List.cons_append, canonical, if_neg hkeep, canonical_append hequals, canonical_effectPart,
      if_neg (List.cons_ne_nil c value)]
    rfl

/-- A taint is printed as its key, its value and its effect, each where it has one. -/
theorem print_eq_append (t : Taint) :
    t.print = t.key ++ (if t.value = [] then [] else '=' :: t.value) ++ effectPart t.effect := by
  rw [print]
  cases t.effect <;> rfl

/-- What is read from a text is printed as the text, less a `=` without a value. -/
theorem print_eq_canonical {malformed : SpecifierError} {text : Text} {t : Taint}
    (h : parseBody malformed text = .ok t) : t.print = canonical text := by
  obtain ⟨⟨keyValue, hkv, rfl⟩, ha⟩ := parseBody_eq_ok_iff.mp h
  obtain ⟨-, hcolon⟩ := ha ':' (by simp)
  obtain ⟨hkey, hvalue⟩ := ha '=' (by simp)
  rcases hkv with rfl | ⟨rfl, hempty⟩
  · rw [print_eq_append, List.append_assoc, List.append_assoc, canonical_append hkey, canonical_equals hcolon hvalue]
  · rw [print_eq_append, if_pos hempty, List.append_nil, canonical_append hkey, canonical_effectPart]

/-- The canonical form is read as the same taint. -/
theorem parseBody_print_of_parseBody {malformed other : SpecifierError} {text : Text} {t : Taint}
    (h : parseBody malformed text = .ok t) : parseBody other t.print = .ok t :=
  parseBody_print_iff.mpr (parseBody_eq_ok_iff.mp h).2

/-- Two texts are read as one taint exactly when they have one canonical form. -/
theorem eq_iff_canonical_eq {text text' : Text} {t t' : Taint} (h : parse text = .ok t) (h' : parse text' = .ok t') :
    t = t' ↔ canonical text = canonical text' := by
  rw [← print_eq_canonical h, ← print_eq_canonical h']
  refine ⟨congrArg print, fun hprint => ?_⟩
  have hread : parse t.print = .ok t := parseBody_print_of_parseBody h
  have hread' : parse t'.print = .ok t' := parseBody_print_of_parseBody h'
  rw [hprint, hread'] at hread
  exact (Except.ok.inj hread).symm

end Taint

namespace Toleration

/-- A toleration is printed with its operator and the canonical form of the specifier of its taint. -/
theorem print_eq_canonical {text inner : Text} {operator : Operator} {t : Toleration} (h : ReadsAs text operator inner)
    (ht : parse text = .ok t) : t.print = t.operator.name ++ '(' :: Taint.canonical inner ++ [')'] := by
  obtain ⟨-, htaint⟩ := (h.toleration t).mp ht
  rw [print, Taint.print_eq_canonical htaint]

/-- A toleration is read again from its printed form exactly when the specifier of its taint holds no `)`. -/
theorem parse_print_iff_not_mem {text inner : Text} {operator : Operator} {t : Toleration}
    (h : ReadsAs text operator inner) (ht : parse text = .ok t) : parse t.print = .ok t ↔ ')' ∉ inner := by
  obtain ⟨-, htaint⟩ := (h.toleration t).mp ht
  obtain ⟨⟨keyValue, hkv, rfl⟩, ha⟩ := Taint.parseBody_eq_ok_iff.mp htaint
  rw [parse_print_eq_ok_iff]
  constructor
  · intro havoids
    obtain ⟨hkey, hvalue⟩ := havoids ')' (by simp)
    simp [hkv.not_mem_text (by decide) hkey hvalue, Taint.not_mem_effectPart]
  · intro hparen
    have hkv' := hkv.not_mem fun hm => hparen (List.mem_append_left _ hm)
    simpa [Taint.Avoids, hkv'] using ha

/-- What printing makes of a text that is read as the toleration. -/
structure PrintedFrom (text : Text) (t : Toleration) : Prop where
  /-- What a wrapper holds is printed in its canonical form, in a wrapper with the operator. -/
  wrapped : ∀ outer inner rest, Wraps text outer inner rest →
    t.print = t.operator.name ++ '(' :: Taint.canonical inner ++ [')']
  /-- A text without a wrapper is printed in its canonical form, in a wrapper with the operator. -/
  bare : ¬IsWrapped text → t.print = t.operator.name ++ '(' :: Taint.canonical text ++ [')']
  /-- The operator of the printed wrapper is one of two. -/
  operator : t.operator.name = "Exists".toList ∨ t.operator.name = "Equal".toList
  /-- The toleration is read again unless the text has no wrapper and yet a `)`. -/
  reread : parse t.print = .ok t ↔ ¬(¬IsWrapped text ∧ ')' ∈ text)

/-- What a toleration is printed as is told by the text that it was read from. -/
theorem printedFrom_of_parse {text : Text} {t : Toleration} (h : parse text = .ok t) : PrintedFrom text t := by
  constructor
  case wrapped =>
    intro outer inner rest hwraps
    exact print_eq_canonical (readsAs_of_split (split_of_wraps hwraps)) h
  case bare =>
    intro hbare
    exact print_eq_canonical (readsAs_of_split (split_of_not_isWrapped hbare)) h
  case operator =>
    cases t.operator with
    | equal => exact Or.inr rfl
    | «exists» => exact Or.inl rfl
  case reread =>
    by_cases hwrapped : IsWrapped text
    · have hnot : ¬(¬IsWrapped text ∧ ')' ∈ text) := fun hbare => hbare.1 hwrapped
      obtain ⟨outer, inner, rest, hwraps⟩ := hwrapped
      rw [parse_print_iff_not_mem (readsAs_of_split (split_of_wraps hwraps)) h]
      exact iff_of_true hwraps.2.2.2 hnot
    · rw [parse_print_iff_not_mem (readsAs_of_split (split_of_not_isWrapped hwrapped)) h, not_and]
      exact ⟨fun hparen _ => hparen, fun hparen => hparen hwrapped⟩

end Toleration

/-- What is read from a text is printed in the canonical form of the text, and read from it again: a taint always, and a toleration
unless there is a `)` in the text without a wrapper that would hold it. Two texts stand for one taint exactly when they have one
canonical form. -/
theorem canonical_form :
    (∀ text t, Taint.parse text = .ok t → t.print = Taint.canonical text ∧ Taint.parse t.print = .ok t) ∧
      (∀ text text' t t', Taint.parse text = .ok t → Taint.parse text' = .ok t' →
        (t = t' ↔ Taint.canonical text = Taint.canonical text')) ∧
      ∀ text t, Toleration.parse text = .ok t → Toleration.PrintedFrom text t := by
  refine ⟨?_, ?_, ?_⟩
  · intro text t h
    exact ⟨Taint.print_eq_canonical h, Taint.parseBody_print_of_parseBody h⟩
  · intro text text' t t' h h'
    exact Taint.eq_iff_canonical_eq h h'
  · intro text t h
    exact Toleration.printedFrom_of_parse h

/-- Two texts for a taint without a value, and a text without a wrapper that holds a `)`. -/
theorem canonical_form_of_texts :
    ((⟨"key".toList, [], some .noSchedule⟩ : Taint).print = Taint.canonical "key=:NoSchedule".toList ∧
      Taint.parse (Taint.print ⟨"key".toList, [], some .noSchedule⟩) =
        .ok ⟨"key".toList, [], some .noSchedule⟩) ∧
      ((⟨"key".toList, [], some .noSchedule⟩ : Taint) = ⟨"key".toList, [], some .noSchedule⟩ ↔
        Taint.canonical "key=:NoSchedule".toList = Taint.canonical "key:NoSchedule".toList) ∧
      Toleration.PrintedFrom ")Exists(key".toList ⟨.equal, ⟨")Exists(key".toList, [], none⟩⟩ := by
  obtain ⟨htaint, htexts, htoleration⟩ := canonical_form
  refine ⟨htaint _ _ ?_, htexts _ _ _ _ ?_ ?_, htoleration _ _ ?_⟩ <;> rfl

end TaintSummary
