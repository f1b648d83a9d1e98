import TaintSummary.Api.Target
import TaintSummary.Proofs.Text.Pieces

/-!
# Targets that are sent as they are

A path of ordinary characters, alone or with a query behind it, is sent without a change as long as it is not too long
(`parse_eq_of_sent?`). Ordinary are letters, digits, dots, hyphens and slashes: the characters of the names of groups, versions,
resource types and namespaces.
-/

namespace TaintSummary.Api.Target

/-- An ASCII letter or digit, a dot, a hyphen or a slash. -/
def IsOrdinary (c : Char) : Prop :=
  ('a' ≤ c ∧ c ≤ 'z') ∨ ('A' ≤ c ∧ c ≤ 'Z') ∨ ('0' ≤ c ∧ c ≤ '9') ∨ c = '.' ∨ c = '-' ∨ c = '/'

instance (c : Char) : Decidable (IsOrdinary c) := inferInstanceAs (Decidable (_ ∨ _))

/-- The target is not too long to be sent. -/
def Fits (t : Text) : Prop := Text.byteSize t ≤ sizeLimit

instance (t : Text) : Decidable (Fits t) := inferInstanceAs (Decidable (_ ≤ _))

/-- Whether a text holds ordinary characters only can be computed. -/
theorem isOrdinary_of_all {t : Text} (h : t.all (IsOrdinary ·) = true) : ∀ c ∈ t, IsOrdinary c := by
  simpa using h

theorem isPathChar_of_isOrdinary {c : Char} (h : IsOrdinary c) : isPathChar c = true := by
  simp only [IsOrdinary, Char.le_def, UInt32.le_iff_toNat_le] at h
  rcases h with h | h | h | rfl | rfl | rfl
  · simp [isPathChar, Char.le_def, UInt32.le_iff_toNat_le] at h ⊢
    omega
  · simp [isPathChar, Char.le_def, UInt32.le_iff_toNat_le] at h ⊢
    omega
  · simp [isPathChar, Char.le_def, UInt32.le_iff_toNat_le] at h ⊢
    omega
  · decide
  · decide
  · decide

/-- The characters of a query are no number signs. -/
theorem query?_eq_some {t : Text} (h : ∀ c ∈ t, isQueryChar c = true) : query? t = some t := by
  induction t with
  | nil => rfl
  | cons c rest ih =>
    have hc := h c (by simp)
    have hne : c ≠ '#' := by rintro rfl; revert hc; decide
    rw [query?, if_neg hne, if_pos hc, ih fun d hd => h d (List.mem_cons_of_mem c hd), Option.map_some]

/-- The characters of a path are sent before what follows them. -/
theorem sent?_append {path rest : Text} (h : ∀ c ∈ path, isPathChar c = true) :
    sent? (path ++ rest) = (sent? rest).map (path ++ ·) := by
  induction path with
  | nil => simp
  | cons c path ih =>
    have hc := h c (by simp)
    have hhash : c ≠ '#' := by rintro rfl; revert hc; decide
    have hquery : c ≠ '?' := by rintro rfl; revert hc; decide
    rw [List.cons_append, sent?, if_neg hhash, if_neg hquery, if_pos hc,
      ih fun d hd => h d (List.mem_cons_of_mem c hd), Option.map_map]
    rfl

/-- A path with a query is sent as it is. -/
theorem sent?_query {path query : Text} (hpath : ∀ c ∈ path, isPathChar c = true)
    (hquery : ∀ c ∈ query, isQueryChar c = true) : sent? (path ++ '?' :: query) = some (path ++ '?' :: query) := by
  rw [sent?_append hpath, sent?, if_neg (by decide), if_pos rfl, query?_eq_some hquery]
  rfl

/-- A path alone is sent as it is. -/
theorem sent?_path {path : Text} (h : ∀ c ∈ path, isPathChar c = true) : sent? path = some path := by
  simpa [sent?] using @sent?_append path [] h

/-- What is sent of a query ends before a number sign. -/
theorem eq_before_of_query? {t sent : Text} (h : query? t = some sent) : sent = Text.before '#' t := by
  induction t generalizing sent with
  | nil => exact (Option.some.inj h).symm
  | cons c rest ih =>
    unfold query? at h
    split at h
    case isTrue hc =>
      cases h
      rw [hc]
      rfl
    case isFalse hc =>
      split at h
      · obtain ⟨sent, hsent, rfl⟩ := Option.map_eq_some_iff.mp h
        rw [ih hsent, Text.before_cons_of_ne hc]
      · cases h

/-- What is sent of a target ends before a number sign. -/
theorem eq_before_of_sent? {t sent : Text} (h : sent? t = some sent) : sent = Text.before '#' t := by
  induction t generalizing sent with
  | nil => exact (Option.some.inj h).symm
  | cons c rest ih =>
    unfold sent? at h
    split at h
    case isTrue hc =>
      cases h
      rw [hc]
      rfl
    case isFalse hc =>
      rw [Text.before_cons_of_ne hc]
      split at h
      · obtain ⟨sent, hsent, rfl⟩ := Option.map_eq_some_iff.mp h
        rw [eq_before_of_query? hsent]
      · split at h
        · obtain ⟨sent, hsent, rfl⟩ := Option.map_eq_some_iff.mp h
          rw [ih hsent]
        · cases h

/-- What is sent may hold neither mark in its path, nor anything else that may not stand there. -/
theorem isPathChar_of_sent? {path rest sent : Text} (h : sent? (path ++ rest) = some sent)
    (hplain : ∀ c ∈ path, c ≠ '?' ∧ c ≠ '#') : ∀ c ∈ path, isPathChar c = true := by
  induction path generalizing sent with
  | nil => simp
  | cons c path ih =>
    obtain ⟨hquery, hhash⟩ := hplain c (by simp)
    rw [List.cons_append, sent?, if_neg hhash, if_neg hquery] at h
    split at h
    case isTrue hc =>
      obtain ⟨sent, hsent, -⟩ := Option.map_eq_some_iff.mp h
      exact List.forall_mem_cons.mpr ⟨hc, ih hsent fun d hd => hplain d (List.mem_cons_of_mem c hd)⟩
    case isFalse => cases h

/-- What every element adds something to is not shorter than the list. -/
theorem length_le_length_flatMap {α β : Type} {f : α → List β} (h : ∀ a, f a ≠ []) (l : List α) :
    l.length ≤ (l.flatMap f).length := by
  induction l with
  | nil => exact Nat.zero_le _
  | cons a l ih =>
    have ha := List.length_pos_iff.mpr (h a)
    rw [List.flatMap_cons, List.length_append, List.length_cons]
    omega

/-- A target with more characters than bytes are allowed is too long. -/
theorem not_fits_of_length {t : Text} (h : sizeLimit < t.length) : ¬Fits t :=
  Nat.not_le.mpr (Nat.lt_of_lt_of_le h (length_le_length_flatMap (fun _ => String.utf8EncodeChar_ne_nil) t))

/-- A target that is sent as it is can only be too long. -/
theorem parse_eq_of_sent? {t : Text} (h : sent? t = some t) : parse t = if Fits t then .ok t else .error .tooLong := by
  unfold parse
  by_cases hfits : Fits t
  · rw [if_neg (Nat.not_lt.mpr hfits), if_pos hfits, h]
  · rw [if_pos (Nat.not_le.mp hfits), if_neg hfits]

/-- What is sent is not too long. -/
theorem fits_of_parse {t sent : Text} (h : parse t = .ok sent) : Fits t := by
  unfold parse at h
  split at h
  · cases h
  · next hlimit => exact Nat.not_lt.mp hlimit

theorem sent?_of_parse {t sent : Text} (h : parse t = .ok sent) : sent? t = some sent := by
  unfold parse at h
  split at h
  · cases h
  · split at h
    · next hsent => rw [hsent, Except.ok.inj h]
    · cases h

end TaintSummary.Api.Target
