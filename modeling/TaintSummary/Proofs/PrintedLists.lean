import TaintSummary.Listed
import TaintSummary.Proofs.Results
import TaintSummary.Proofs.Specifier

/-!
# Printed lists are read back

A list is printed with a comma and a line feed between its specifiers. A comma alone may stand anywhere in a specifier, but without
line feeds in the specifiers each comma before a line feed separates two of them (`commaLines_join`). So a list is read back
from what is printed when each of its specifiers is. Only an empty list and one taint are shown as `none`
(`printed_lists_read_back`).
-/

namespace TaintSummary

namespace Text

/-- The texts between the commas that a line feed follows. -/
def commaLines : Text → List Text
  | [] => [[]]
  | ',' :: '\n' :: rest => [] :: commaLines rest
  | c :: rest => (commaLines rest).modifyHead (c :: ·)

/-- A character that no line feed follows belongs to the first text. -/
theorem commaLines_cons {c : Char} {rest : Text} (h : rest.head? ≠ some '\n') :
    commaLines (c :: rest) = (commaLines rest).modifyHead (c :: ·) := by
  rw [commaLines]
  rintro rest' rfl rfl
  exact h rfl

/-- What stands before a comma and a line feed is the first text. -/
theorem commaLines_append {t : Text} (h : '\n' ∉ t) (rest : Text) :
    commaLines (t ++ ',' :: '\n' :: rest) = t :: commaLines rest := by
  induction t with
  | nil => rfl
  | cons c t ih =>
    rw [List.mem_cons, not_or] at h
    have hhead : (t ++ ',' :: '\n' :: rest).head? ≠ some '\n' := by
      cases t with
      | nil => simp
      | cons d t => simpa using fun hd => h.2 (by simp [hd])
    rw [List.cons_append, commaLines_cons hhead, ih h.2]
    rfl

/-- A text without a line feed is the only one. -/
theorem commaLines_of_not_mem {t : Text} (h : '\n' ∉ t) : commaLines t = [t] := by
  induction t with
  | nil => rfl
  | cons c t ih =>
    rw [List.mem_cons, not_or] at h
    have hhead : t.head? ≠ some '\n' := fun hd => h.2 (List.mem_of_head? hd)
    rw [commaLines_cons hhead, ih h.2]
    rfl

/-- Texts without line feeds are the texts between the commas that a line feed follows, once they are joined with these. -/
theorem commaLines_join {ts : List Text} (hne : ts ≠ []) (h : ∀ t ∈ ts, '\n' ∉ t) :
    commaLines (join ",\n".toList ts) = ts := by
  induction ts with
  | nil => exact absurd rfl hne
  | cons t more ih =>
    have ht : '\n' ∉ t := h t (by simp)
    cases more with
    | nil => exact commaLines_of_not_mem ht
    | cons u more =>
      have hjoin : join ",\n".toList (t :: u :: more) = t ++ ',' :: '\n' :: join ",\n".toList (u :: more) := by
        simp [join]
      rw [hjoin, commaLines_append ht, ih (by simp) fun v hv => h v (List.mem_cons_of_mem t hv)]

end Text

namespace Listed

variable {α : Type} [Listed α]

/-- A list is shown as an empty one when it is empty, or when its only specifier is the word for an empty list. -/
theorem printList_eq_none_iff {items : List α} :
    printList items = none ↔ items = [] ∨ ∃ item, items = [item] ∧ print item = none := by
  match items with
  | [] => simp [printList]
  | [item] => simp [printList, Text.join]
  | item :: next :: more =>
    have hline : '\n' ∈ printList (item :: next :: more) := by simp [printList, Text.join]
    have hnone : printList (item :: next :: more) ≠ none := by
      intro heq
      rw [heq] at hline
      revert hline
      decide
    simp [hnone]

/-- What is printed for a list tells it: the word for an empty list stands for no other one, and the texts between the commas that a
line feed follows are read as its elements. -/
structure ReadsBack (items : List α) : Prop where
  empty : printList items = "none".toList ↔ items = []
  elements : items ≠ [] → (Text.commaLines (printList items)).mapM parse = .ok items

theorem readsBack {items : List α} (hempty : printList items = none → items = [])
    (hline : ∀ item ∈ items, '\n' ∉ print item) (hparse : ∀ item ∈ items, parse (print item) = .ok item) :
    ReadsBack items := by
  refine ⟨⟨hempty, fun h => printList_eq_none_iff.mpr (Or.inl h)⟩, fun hne => ?_⟩
  have hprint : printList items = Text.join ",\n".toList (items.map print) := if_neg (by simpa using hne)
  have hlines : Text.commaLines (printList items) = items.map print := by
    rw [hprint]
    exact Text.commaLines_join (by simpa using hne) (List.forall_mem_map.mpr hline)
  rw [hlines, mapM_eq_ok_iff, List.forall₂_map_left_iff, List.forall₂_same]
  exact hparse

end Listed

/-- Only one taint has the specifier `none`. -/
theorem Taint.print_eq_none_iff {t : Taint} : t.print = Listed.none ↔ t = ⟨"none".toList, [], none⟩ := by
  refine ⟨fun h => ?_, fun h => h ▸ rfl⟩
  obtain ⟨text, htext, heq⟩ := print_eq t
  obtain ⟨key, value, effect⟩ := t
  rw [h] at heq
  cases effect with
  | some e =>
    have hcolon : ':' ∈ Listed.none := by simp [heq, effectPart]
    exact absurd hcolon (by decide)
  | none =>
    rw [effectPart, List.append_nil] at heq
    rcases htext with rfl | ⟨rfl, hvalue⟩
    · have hequals : '=' ∈ Listed.none := by simp [heq]
      exact absurd hequals (by decide)
    · subst hvalue
      exact congrArg (Taint.mk · [] none) heq.symm

/-- The specifier of a toleration is not the word for an empty list. -/
theorem Toleration.print_ne_none (t : Toleration) : t.print ≠ Listed.none := by
  intro h
  have hparen : '(' ∈ Listed.none := by simp [← h, print]
  exact absurd hparen (by decide)

/-- Lists of taints and of tolerations are read back when no key and no value has a character that their specifiers or the lines are
cut at, except for one taint that is shown as an empty list. Whatever the keys and the values are, no other list than this one and
the empty one is shown so. -/
theorem printed_lists_read_back :
    (∀ taints : List Taint, (∀ t ∈ taints, t.Avoids [':', '=', '\n']) → taints ≠ [⟨"none".toList, [], none⟩] →
        Listed.ReadsBack taints) ∧
      (∀ tolerations : List Toleration, (∀ t ∈ tolerations, t.taint.Avoids [':', '=', ')', '\n']) →
        Listed.ReadsBack tolerations) ∧
      (∀ tolerations : List Toleration, Listed.printList tolerations = "none".toList → tolerations = []) ∧
      ∀ taints : List Taint, Listed.printList taints = "none".toList →
        taints = [] ∨ taints = [⟨"none".toList, [], none⟩] := by
  have htaints : ∀ taints : List Taint, Listed.printList taints = "none".toList →
      taints = [] ∨ taints = [⟨"none".toList, [], none⟩] := by
    intro taints h
    refine (Listed.printList_eq_none_iff.mp h).imp_right ?_
    rintro ⟨t, rfl, ht⟩
    rw [Taint.print_eq_none_iff.mp ht]
  have htolerations : ∀ tolerations : List Toleration, Listed.printList tolerations = "none".toList → tolerations = [] := by
    intro tolerations h
    refine (Listed.printList_eq_none_iff.mp h).resolve_right ?_
    rintro ⟨t, -, ht⟩
    exact t.print_ne_none ht
  refine ⟨fun taints havoids hne => ?_, fun tolerations havoids => ?_, htolerations, htaints⟩
  · refine Listed.readsBack (fun h => (htaints taints h).resolve_right hne) (fun t ht => ?_) fun t ht => ?_
    · have hline := havoids t ht '\n' (by simp)
      exact Taint.not_mem_print (by simp) hline.1 hline.2
    · exact Taint.parseBody_print_iff.mpr ((havoids t ht).mono (by simp))
  · refine Listed.readsBack (htolerations tolerations) (fun t ht => ?_) fun t ht => ?_
    · exact Toleration.not_mem_print ((havoids t ht).mono (by simp))
    · exact (Toleration.parse_print_eq_ok_iff t).mpr ((havoids t ht).mono (by simp))

/-- Taints and tolerations with commas at the ends of their keys and values and with nothing in them; and the taint that is shown
as an empty list. -/
theorem printed_lists_read_back_commas :
    let taints : List Taint := [⟨"a,".toList, ",".toList, none⟩, ⟨[], [], none⟩, ⟨",".toList, [], some .noExecute⟩]
    let tolerations : List Toleration := [⟨.exists, "a,".toList, "(,".toList, none⟩, ⟨.equal, [], [], none⟩]
    let excepted : List Taint := [⟨"none".toList, [], none⟩]
    Listed.ReadsBack taints ∧ Listed.ReadsBack tolerations ∧
      (∀ ts : List Toleration, Listed.printList ts = Listed.printList excepted → ts = []) ∧
      ∀ ts : List Taint, Listed.printList ts = Listed.printList excepted → ts = [] ∨ ts = excepted := by
  intro taints tolerations excepted
  obtain ⟨htaints, htolerations, hnoTolerations, hnoTaints⟩ := printed_lists_read_back
  exact ⟨htaints taints (by decide) (by decide), htolerations tolerations (by decide), hnoTolerations, hnoTaints⟩

end TaintSummary
