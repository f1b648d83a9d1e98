import Mathlib.Data.List.Forall2

/-!
# Results

What becomes of a result when its error is changed or a step follows it, and of a list read with a reader that may fail: it is read
when every element is (`mapM_ok_iff`), and otherwise the error is that of the first element that is not (`mapM_eq_error_iff`).
-/

namespace TaintSummary

@[simp] theorem mapError_ok {ε ε' α : Type} (f : ε → ε') (a : α) : (Except.ok a : Except ε α).mapError f = .ok a := rfl

@[simp] theorem mapError_error {ε ε' α : Type} (f : ε → ε') (e : ε) :
    (Except.error e : Except ε α).mapError f = .error (f e) := rfl

variable {ε α β : Type} {f : α → Except ε β}

/-- Two steps give a value when the first gives one from which the second gives it. -/
theorem bind_eq_ok_iff {x : Except ε α} {b : β} : x.bind f = .ok b ↔ ∃ a, x = .ok a ∧ f a = .ok b := by
  cases x <;> simp [Except.bind]

/-- A changed value is the change of a value. -/
theorem map_eq_ok_iff {x : Except ε α} {g : α → β} {b : β} : x.map g = .ok b ↔ ∃ a, x = .ok a ∧ g a = b := by
  cases x <;> simp [Except.map]

/-- A result with its error changed is a value when the result is this value. -/
theorem mapError_eq_ok_iff {ε' : Type} {x : Except ε α} {g : ε → ε'} {a : α} : x.mapError g = .ok a ↔ x = .ok a := by
  cases x <;> simp

/-- Two steps fail when the first does, or when the second does on what the first gives. -/
theorem bind_eq_error_iff {x : Except ε α} {e : ε} : x.bind f = .error e ↔ x = .error e ∨ ∃ a, x = .ok a ∧ f a = .error e := by
  cases x <;> simp [Except.bind]

theorem map_eq_error_iff {x : Except ε α} {g : α → β} {e : ε} : x.map g = .error e ↔ x = .error e := by
  cases x <;> simp [Except.map]

/-- An element that is read stands before what is read of the others. -/
theorem mapM_cons_of_ok {a : α} {b : β} (as : List α) (h : f a = .ok b) :
    (a :: as).mapM f = (as.mapM f).map (b :: ·) := by
  rw [List.mapM_cons, h]
  cases as.mapM f <;> rfl

/-- An element that is not read is the error, and the others are not looked at. -/
theorem mapM_cons_of_error {a : α} {e : ε} (as : List α) (h : f a = .error e) : (a :: as).mapM f = .error e := by
  rw [List.mapM_cons, h]
  rfl

/-- A list is read exactly when each of its elements is. -/
theorem mapM_ok_iff {as : List α} : (∃ bs, as.mapM f = .ok bs) ↔ ∀ a ∈ as, ∃ b, f a = .ok b := by
  induction as with
  | nil => simp [pure, Except.pure]
  | cons a as ih =>
    rw [List.forall_mem_cons, ← ih]
    cases ha : f a with
    | error e => simp [mapM_cons_of_error as ha]
    | ok b =>
      rw [mapM_cons_of_ok as ha]
      cases as.mapM f <;> simp [Except.map]

/-- The error of a list is that of its first element that is not read. -/
theorem mapM_eq_error_iff {as : List α} {e : ε} :
    as.mapM f = .error e ↔
      ∃ before a after, as = before ++ a :: after ∧ (∀ b ∈ before, ∃ x, f b = .ok x) ∧ f a = .error e := by
  induction as with
  | nil => simp [pure, Except.pure]
  | cons a as ih =>
    constructor
    · intro h
      cases ha : f a with
      | error e' =>
        rw [mapM_cons_of_error as ha] at h
        cases h
        exact ⟨[], a, as, rfl, by simp, ha⟩
      | ok b =>
        rw [mapM_cons_of_ok as ha] at h
        cases hm : as.mapM f with
        | ok bs => simp [hm, Except.map] at h
        | error e' =>
          rw [hm] at h
          cases h
          obtain ⟨before, x, after, rfl, hbefore, hx⟩ := ih.mp hm
          exact ⟨a :: before, x, after, rfl, List.forall_mem_cons.mpr ⟨⟨b, ha⟩, hbefore⟩, hx⟩
    · rintro ⟨before, x, after, heq, hbefore, hx⟩
      cases before with
      | nil =>
        obtain ⟨rfl, rfl⟩ := List.cons.inj heq
        exact mapM_cons_of_error as hx
      | cons y before =>
        obtain ⟨rfl, rfl⟩ := List.cons.inj heq
        obtain ⟨⟨b, hb⟩, hrest⟩ := List.forall_mem_cons.mp hbefore
        rw [mapM_cons_of_ok _ hb, ih.mpr ⟨before, x, after, rfl, hrest, hx⟩]
        rfl

/-- A list is read when its first element and the rest are. -/
theorem mapM_cons_eq_ok_iff {a : α} {as : List α} {bs : List β} :
    (a :: as).mapM f = .ok bs ↔ ∃ b more, f a = .ok b ∧ as.mapM f = .ok more ∧ bs = b :: more := by
  cases ha : f a with
  | error e => simp [mapM_cons_of_error as ha]
  | ok b =>
    rw [mapM_cons_of_ok as ha]
    cases as.mapM f <;> simp [Except.map, eq_comm]

/-- A list is read as the list of what its elements are read as, one by one. -/
theorem mapM_eq_ok_iff {as : List α} {bs : List β} :
    as.mapM f = .ok bs ↔ List.Forall₂ (fun a b => f a = .ok b) as bs := by
  induction as generalizing bs with
  | nil => simp [pure, Except.pure, eq_comm]
  | cons a as ih =>
    rw [mapM_cons_eq_ok_iff, List.forall₂_cons_left_iff]
    simp only [ih]

/-- What is read of a list stands where the elements stand that it is read from. -/
theorem getElem?_of_mapM {as : List α} {bs : List β} (h : as.mapM f = .ok bs) {i : Nat} {b : β} :
    bs[i]? = some b ↔ ∃ a, as[i]? = some a ∧ f a = .ok b := by
  induction as generalizing bs i with
  | nil =>
    cases h
    simp
  | cons a as ih =>
    obtain ⟨c, more, ha, hmore, rfl⟩ := mapM_cons_eq_ok_iff.mp h
    cases i with
    | zero => simp [ha]
    | succ i => simpa using ih hmore

/-- The elements of a list may be read in any order. -/
theorem mapM_perm {as as' : List α} {bs : List β} (hperm : as.Perm as') (h : as.mapM f = .ok bs) :
    ∃ bs', as'.mapM f = .ok bs' ∧ bs.Perm bs' := by
  induction hperm generalizing bs with
  | nil => exact ⟨bs, h, .refl bs⟩
  | cons a _ ih =>
    obtain ⟨b, more, ha, hmore, rfl⟩ := mapM_cons_eq_ok_iff.mp h
    obtain ⟨more', hmore', hperm'⟩ := ih hmore
    exact ⟨b :: more', mapM_cons_eq_ok_iff.mpr ⟨b, more', ha, hmore', rfl⟩, hperm'.cons b⟩
  | swap x y as =>
    obtain ⟨c, rest, hy, hrest, rfl⟩ := mapM_cons_eq_ok_iff.mp h
    obtain ⟨b, more, hx, hmore, rfl⟩ := mapM_cons_eq_ok_iff.mp hrest
    have hswapped : (y :: as).mapM f = .ok (c :: more) := mapM_cons_eq_ok_iff.mpr ⟨c, more, hy, hmore, rfl⟩
    exact ⟨b :: c :: more, mapM_cons_eq_ok_iff.mpr ⟨b, c :: more, hx, hswapped, rfl⟩, .swap b c more⟩
  | trans _ _ ih₁ ih₂ =>
    obtain ⟨bs₁, h₁, hperm₁⟩ := ih₁ h
    obtain ⟨bs₂, h₂, hperm₂⟩ := ih₂ h₁
    exact ⟨bs₂, h₂, hperm₁.trans hperm₂⟩

/-- Lists whose elements are read alike, one by one, are read alike. -/
theorem mapM_congr {α' : Type} {f' : α' → Except ε β} {as : List α} {as' : List α'}
    (h : List.Forall₂ (fun a a' => f a = f' a') as as') : as.mapM f = as'.mapM f' := by
  induction h with
  | nil => rfl
  | cons hread _ ih => rw [List.mapM_cons, List.mapM_cons, hread, ih]

/-- What is kept of every element when it is read is kept of the list. -/
theorem map_of_mapM {γ : Type} {g : β → γ} {k : α → γ} (hf : ∀ a b, f a = .ok b → g b = k a) {as : List α}
    {bs : List β} (h : as.mapM f = .ok bs) : bs.map g = as.map k := by
  induction as generalizing bs with
  | nil =>
    cases h
    rfl
  | cons a as ih =>
    obtain ⟨b, more, ha, hmore, rfl⟩ := mapM_cons_eq_ok_iff.mp h
    rw [List.map_cons, List.map_cons, hf a b ha, ih hmore]

end TaintSummary
