import TaintSummary.Proofs.Results
import TaintSummary.SortedMap
import TaintSummary.Sorting

/-!
# Order of entry

When no key occurs twice, a sorted list does not show in what order its elements came (`sortBy_eq_of_perm`) or when some were left
out (`sortBy_filter`), a map holds what was put into it, whatever the order (`SortedMap.entries_ofList_perm`), and two maps with the same entries are one
(`SortedMap.eq_of_mem_iff`).
-/

namespace TaintSummary

section Sorting

variable {α κ : Type} [Ord κ] [Std.TransOrd κ] [Std.LawfulEqOrd κ] {key : α → κ}

omit [Std.LawfulEqOrd κ] in
/-- Elements stand in one order only in which their keys strictly increase. -/
theorem eq_of_perm_of_increasing {as bs : List α} (hperm : as.Perm bs)
    (ha : as.Pairwise fun a b => compare (key a) (key b) = .lt)
    (hb : bs.Pairwise fun a b => compare (key a) (key b) = .lt) : as = bs := by
  refine hperm.eq_of_pairwise (fun a b _ _ hab hba => ?_) ha hb
  rw [Std.OrientedCmp.gt_of_lt hab] at hba
  cases hba

/-- Distinct keys strictly increase once they are sorted. -/
theorem sortBy_increasing {as : List α} (h : (as.map key).Nodup) :
    (sortBy key as).Pairwise fun a b => compare (key a) (key b) = .lt := by
  have hdistinct : (sortBy key as).Pairwise fun a b => key a ≠ key b :=
    List.pairwise_map.mp (((sortBy_perm key as).map key).nodup_iff.mpr h)
  refine ((sortBy_sorted key as).and hdistinct).imp fun {a b} hab => ?_
  obtain ⟨hle, hne⟩ := hab
  cases hcompare : compare (key a) (key b) with
  | lt => rfl
  | eq => exact absurd (Std.LawfulEqOrd.eq_of_compare hcompare) hne
  | gt => exact absurd hcompare hle

/-- Elements with distinct keys are sorted in one way only. -/
theorem sortBy_eq_of_perm {as bs : List α} (hperm : as.Perm bs) (h : (as.map key).Nodup) :
    sortBy key as = sortBy key bs := by
  have hsorted : (sortBy key as).Perm (sortBy key bs) :=
    (sortBy_perm key as).trans (hperm.trans (sortBy_perm key bs).symm)
  exact eq_of_perm_of_increasing hsorted (sortBy_increasing h) (sortBy_increasing ((hperm.map key).nodup_iff.mp h))

/-- Elements with distinct keys can be left out before they are sorted or after. -/
theorem sortBy_filter (p : α → Bool) {as : List α} (h : (as.map key).Nodup) :
    sortBy key (as.filter p) = (sortBy key as).filter p := by
  have hperm : (sortBy key (as.filter p)).Perm ((sortBy key as).filter p) :=
    (sortBy_perm key (as.filter p)).trans ((sortBy_perm key as).filter p).symm
  have hkept : ((as.filter p).map key).Nodup := h.sublist (List.filter_sublist.map key)
  exact eq_of_perm_of_increasing hperm (sortBy_increasing hkept) ((sortBy_increasing h).filter p)

end Sorting

namespace SortedMap

variable {κ ν : Type} [Ord κ] [Std.TransOrd κ] [Std.LawfulEqOrd κ]

omit [Std.TransOrd κ] in
/-- A new key adds an entry and changes no other. -/
theorem insertEntry_perm {k : κ} (v : ν) {es : List (κ × ν)} (h : k ∉ es.map Prod.fst) :
    (insertEntry k v es).Perm ((k, v) :: es) := by
  induction es with
  | nil => exact .refl _
  | cons e rest ih =>
    rw [List.map_cons, List.mem_cons, not_or] at h
    unfold insertEntry
    split
    · exact .refl _
    · next heq => exact absurd (Std.LawfulEqOrd.eq_of_compare heq) h.1
    · exact ((ih h.2).cons e).trans (.swap (k, v) e rest)

/-- Entries with new keys are added to a map. -/
theorem entries_foldl_insert_perm {es : List (κ × ν)} {m : SortedMap κ ν}
    (h : ((es ++ m.entries).map Prod.fst).Nodup) :
    (es.foldl (fun m e => m.insert e.1 e.2) m).entries.Perm (es ++ m.entries) := by
  -- the keys that are still to come differ from one another and from all keys of the map
  induction es generalizing m with
  | nil => exact .refl _
  | cons e rest ih =>
    have hnodup := List.nodup_cons.mp h
    have hnew : e.1 ∉ m.entries.map Prod.fst := fun hm => hnodup.1 (by simp [hm])
    have hinsert : (rest ++ (m.insert e.1 e.2).entries).Perm (e :: rest ++ m.entries) :=
      ((insertEntry_perm e.2 hnew).append_left rest).trans List.perm_middle
    exact (ih ((hinsert.map Prod.fst).nodup_iff.mpr h)).trans hinsert

/-- A map made from entries with distinct keys holds these entries. -/
theorem entries_ofList_perm {es : List (κ × ν)} (h : (es.map Prod.fst).Nodup) : (ofList es).entries.Perm es := by
  have hperm : (ofList es).entries.Perm (es ++ []) :=
    @entries_foldl_insert_perm κ ν _ _ _ es empty (by simpa [empty] using h)
  rwa [List.append_nil] at hperm

/-- After an entry is put in, its key has its value and any other key what it had. -/
theorem mem_insert_iff {m : SortedMap κ ν} {k x : κ} {v w : ν} :
    (x, w) ∈ (m.insert k v).entries ↔ (x = k ∧ w = v) ∨ (x ≠ k ∧ (x, w) ∈ m.entries) := by
  rw [mem_entries_iff, find?_insert, mem_entries_iff]
  by_cases hkey : x = k
  · simp [hkey, Std.ReflOrd.compare_self, eq_comm]
  · have hne : compare x k ≠ .eq := fun h => hkey (Std.LawfulEqOrd.eq_of_compare h)
    simp [hkey, hne]

/-- Of entries with the same key the last one stays, and an entry of the map stays when none with its key is put in. -/
theorem mem_foldl_insert_iff {es : List (κ × ν)} {m : SortedMap κ ν} {k : κ} {v : ν} :
    (k, v) ∈ (es.foldl (fun m e => m.insert e.1 e.2) m).entries ↔
      (∃ before after, es = before ++ (k, v) :: after ∧ ∀ e ∈ after, e.1 ≠ k) ∨
        ((∀ e ∈ es, e.1 ≠ k) ∧ (k, v) ∈ m.entries) := by
  induction es generalizing m with
  | nil => simp
  | cons e rest ih =>
    rw [List.foldl_cons, ih, mem_insert_iff, List.forall_mem_cons]
    constructor
    · rintro (⟨before, after, rfl, hafter⟩ | ⟨hrest, ⟨rfl, rfl⟩ | ⟨hne, hm⟩⟩)
      · exact Or.inl ⟨e :: before, after, rfl, hafter⟩
      · exact Or.inl ⟨[], rest, rfl, hrest⟩
      · exact Or.inr ⟨⟨Ne.symm hne, hrest⟩, hm⟩
    · rintro (⟨before, after, heq, hafter⟩ | ⟨⟨hne, hrest⟩, hm⟩)
      · cases before with
        | nil =>
          obtain ⟨rfl, rfl⟩ := List.cons.inj heq
          exact Or.inr ⟨hafter, Or.inl ⟨rfl, rfl⟩⟩
        | cons x before =>
          obtain ⟨rfl, rfl⟩ := List.cons.inj heq
          exact Or.inl ⟨before, after, rfl, hafter⟩
      · exact Or.inr ⟨hrest, Or.inr ⟨Ne.symm hne, hm⟩⟩

/-- A map made from entries holds the last one of each key. -/
theorem mem_ofList_iff {es : List (κ × ν)} {k : κ} {v : ν} :
    (k, v) ∈ (ofList es).entries ↔
      ∃ j : Nat, es[j]? = some (k, v) ∧ ∀ (i : Nat) (e : κ × ν), j < i → es[i]? = some e → e.1 ≠ k := by
  rw [ofList, mem_foldl_insert_iff, or_iff_left (by simp [empty])]
  constructor
  · rintro ⟨before, after, rfl, hafter⟩
    refine ⟨before.length, by simp, fun i e hlt he => hafter e ?_⟩
    rw [List.getElem?_append_right (Nat.le_of_lt hlt), List.getElem?_cons, if_neg (by omega)] at he
    exact List.mem_of_getElem? he
  · rintro ⟨j, hj, hlast⟩
    obtain ⟨hlength, hget⟩ := List.getElem?_eq_some_iff.mp hj
    refine ⟨es.take j, es.drop (j + 1), ?_, fun e he => ?_⟩
    · rw [← hget, ← List.drop_eq_getElem_cons hlength, List.take_append_drop]
    · obtain ⟨i, hi⟩ := List.mem_iff_getElem?.mp he
      rw [List.getElem?_drop] at hi
      exact hlast (j + 1 + i) e (by omega) hi

omit [Std.TransOrd κ] [Std.LawfulEqOrd κ] in
theorem mem_keys_iff {m : SortedMap κ ν} {k : κ} : k ∈ m.keys ↔ ∃ v, (k, v) ∈ m.entries := by
  simp [keys]

theorem mem_keys_foldl_insert_iff {es : List (κ × ν)} {m : SortedMap κ ν} {k : κ} :
    k ∈ (es.foldl (fun m e => m.insert e.1 e.2) m).keys ↔ k ∈ es.map Prod.fst ∨ k ∈ m.keys := by
  induction es generalizing m with
  | nil => simp
  | cons e rest ih =>
    have hinsert : k ∈ (m.insert e.1 e.2).keys ↔ k = e.1 ∨ k ∈ m.keys := by
      simp only [mem_keys_iff, mem_insert_iff]
      by_cases hkey : k = e.1 <;> simp [hkey]
    rw [List.foldl_cons, ih, hinsert, List.map_cons, List.mem_cons, or_left_comm, or_assoc]

/-- The keys of a map made from entries are the keys of the entries. -/
theorem mem_keys_ofList_iff {es : List (κ × ν)} {k : κ} : k ∈ (ofList es).keys ↔ k ∈ es.map Prod.fst := by
  rw [ofList, mem_keys_foldl_insert_iff]
  simp [empty, keys]

omit [Std.LawfulEqOrd κ] in
theorem nodup_entries (m : SortedMap κ ν) : m.entries.Nodup := by
  refine m.increasing.imp fun {a b} hab heq => ?_
  rw [heq, Std.ReflOrd.compare_self] at hab
  cases hab

omit [Std.LawfulEqOrd κ] in
theorem nodup_keys (m : SortedMap κ ν) : m.keys.Nodup := by
  refine List.pairwise_map.mpr (m.increasing.imp fun {a b} hab heq => ?_)
  rw [heq, Std.ReflOrd.compare_self] at hab
  cases hab

omit [Std.TransOrd κ] [Std.LawfulEqOrd κ] in
theorem entries_injective : Function.Injective (entries : SortedMap κ ν → List (κ × ν)) := by
  rintro ⟨es, _⟩ ⟨es', _⟩ h
  obtain rfl : es = es' := h
  rfl

omit [Std.LawfulEqOrd κ] in
/-- Maps with the same entries are equal. -/
theorem eq_of_mem_iff {m m' : SortedMap κ ν} (h : ∀ e, e ∈ m.entries ↔ e ∈ m'.entries) : m = m' := by
  have hperm : m.entries.Perm m'.entries := (List.perm_ext_iff_of_nodup m.nodup_entries m'.nodup_entries).mpr h
  exact entries_injective (eq_of_perm_of_increasing hperm m.increasing m'.increasing)

end SortedMap

end TaintSummary
