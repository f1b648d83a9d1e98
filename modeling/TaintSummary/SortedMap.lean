/-!
# Sorted maps

A finite map is a list of keys with their values in strictly increasing order of the keys, so that two maps with the same
entries are equal. Inserting replaces the value of a key that is there (`find?_insert`), and looking keys up shows exactly the
entries (`mem_entries_iff`).
-/

namespace TaintSummary

/-- Keys with their values, the keys strictly increasing. -/
structure SortedMap (κ ν : Type) [Ord κ] where
  entries : List (κ × ν)
  increasing : entries.Pairwise fun a b => compare a.1 b.1 = .lt

namespace SortedMap

variable {κ ν : Type} [Ord κ]

/-- The map without entries. -/
def empty : SortedMap κ ν := ⟨[], .nil⟩

instance : Inhabited (SortedMap κ ν) := ⟨empty⟩

/-- The entries with `k` mapped to `v`. -/
def insertEntry (k : κ) (v : ν) : List (κ × ν) → List (κ × ν)
  | [] => [(k, v)]
  | e :: rest =>
    match compare k e.1 with
    | .lt => (k, v) :: e :: rest
    | .eq => (k, v) :: rest
    | .gt => e :: insertEntry k v rest

/-- Inserting brings in no entry but the one that is inserted. -/
theorem mem_insertEntry {k : κ} {v : ν} {es : List (κ × ν)} {x : κ × ν} (h : x ∈ insertEntry k v es) :
    x = (k, v) ∨ x ∈ es := by
  induction es with
  | nil => simpa [insertEntry] using h
  | cons e rest ih =>
    unfold insertEntry at h
    split at h
    · simpa using h
    · simp only [List.mem_cons] at h ⊢
      exact h.imp_right .inr
    · rcases List.mem_cons.mp h with h | h
      · exact .inr (List.mem_cons.mpr (.inl h))
      · exact (ih h).imp_right (List.mem_cons_of_mem _)

variable [Std.TransOrd κ]

/-- Inserting keeps the keys strictly increasing, since the entry goes to the place of its key. -/
theorem increasing_insertEntry (k : κ) (v : ν) {es : List (κ × ν)}
    (h : es.Pairwise fun a b => compare a.1 b.1 = .lt) :
    (insertEntry k v es).Pairwise fun a b => compare a.1 b.1 = .lt := by
  induction es with
  | nil => simp [insertEntry]
  | cons e rest ih =>
    have ⟨he, hrest⟩ := List.pairwise_cons.mp h
    unfold insertEntry
    split
    · next hlt =>
      refine List.pairwise_cons.mpr ⟨fun x hx => ?_, h⟩
      rcases List.mem_cons.mp hx with hx | hx
      · rw [hx]; exact hlt
      · exact Std.TransCmp.lt_trans hlt (he x hx)
    · next heq =>
      refine List.pairwise_cons.mpr ⟨fun x hx => ?_, hrest⟩
      exact (Std.TransCmp.congr_left heq).trans (he x hx)
    · next hgt =>
      refine List.pairwise_cons.mpr ⟨fun x hx => ?_, ih hrest⟩
      rcases mem_insertEntry hx with hx | hx
      · rw [hx]; exact Std.OrientedCmp.lt_of_gt hgt
      · exact he x hx

/-- The map with `k` mapped to `v`. -/
def insert (m : SortedMap κ ν) (k : κ) (v : ν) : SortedMap κ ν :=
  ⟨insertEntry k v m.entries, increasing_insertEntry k v m.increasing⟩

/-- The entries put in one after the other: of entries with the same key the last one stays. -/
def ofList (es : List (κ × ν)) : SortedMap κ ν := es.foldl (fun m e => m.insert e.1 e.2) empty

omit [Std.TransOrd κ] in
/-- The entries that pass the test. -/
def filter (p : κ → ν → Bool) (m : SortedMap κ ν) : SortedMap κ ν :=
  ⟨m.entries.filter fun e => p e.1 e.2, m.increasing.filter _⟩

omit [Std.TransOrd κ] in
/-- The value of a key. -/
def find? (m : SortedMap κ ν) (k : κ) : Option ν :=
  (m.entries.find? fun e => compare k e.1 = .eq).map Prod.snd

omit [Std.TransOrd κ] in
/-- The keys in increasing order. -/
def keys (m : SortedMap κ ν) : List κ := m.entries.map Prod.fst

/-- Among the entries after inserting, the key finds the new one and every other key what it found before. -/
theorem find?_insertEntry (k x : κ) (v : ν) (es : List (κ × ν)) :
    (insertEntry k v es).find? (fun e => compare x e.1 = .eq) =
      if compare x k = .eq then some (k, v) else es.find? fun e => compare x e.1 = .eq := by
  induction es with
  | nil => by_cases h : compare x k = .eq <;> simp [insertEntry, h]
  | cons e rest ih =>
    unfold insertEntry
    split
    · by_cases h : compare x k = .eq <;> simp [List.find?_cons, h]
    · next heq =>
      have he : compare x e.1 = compare x k := (Std.TransCmp.congr_right heq).symm
      by_cases h : compare x k = .eq <;> simp [h, he]
    · next hgt =>
      by_cases h : compare x k = .eq
      · have he : compare x e.1 = .gt := (Std.TransCmp.congr_left h).trans hgt
        simp [he, ih, h]
      · simp only [List.find?_cons, ih, h, if_false]

/-- After inserting, the key has the new value and every other key the value it had. -/
theorem find?_insert (m : SortedMap κ ν) (k x : κ) (v : ν) :
    (m.insert k v).find? x = if compare x k = .eq then some v else m.find? x := by
  unfold find? insert
  rw [find?_insertEntry]
  by_cases h : compare x k = .eq <;> simp [h]

omit [Std.TransOrd κ] in
/-- The entries are the keys with the values that are found for them. -/
theorem mem_entries_iff [Std.LawfulEqOrd κ] (m : SortedMap κ ν) (k : κ) (v : ν) :
    (k, v) ∈ m.entries ↔ m.find? k = some v := by
  obtain ⟨es, h⟩ := m
  unfold find?
  simp only
  induction es with
  | nil => simp
  | cons e rest ih =>
    have ⟨he, hrest⟩ := List.pairwise_cons.mp h
    by_cases hk : compare k e.1 = .eq
    · have hke : k = e.1 := Std.LawfulEqOrd.eq_of_compare hk
      subst hke
      simp only [List.mem_cons, hk, List.find?_cons, decide_true, Option.map_some, Option.some.injEq]
      constructor
      · rintro (h | h)
        · rw [← h]
        · have := he _ h
          simp [Std.ReflOrd.compare_self] at this
      · rintro rfl
        exact .inl rfl
    · have hne : (k, v) ≠ e := fun h => hk (by rw [← h]; exact Std.ReflOrd.compare_self)
      simp only [List.mem_cons, hne, false_or, List.find?_cons, hk, decide_false]
      exact ih hrest

end SortedMap

end TaintSummary
