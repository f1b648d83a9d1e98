import TaintSummary.Proofs.ListingOrder

/-!
# What is read of an entry

Of the entry of a list only the key, the value, the effect and the operator are read, and a text that is missing, null or empty is
one and the same. So bodies whose lists agree in that are read alike, whatever else their entries and they themselves hold, and an
object may be put in the place of such another one without changing what may be printed (`replacements_summarized_alike`).
-/

namespace TaintSummary

namespace Json

/-- A member that is missing, null or empty says nothing. -/
def Unset (member : Option Json) : Prop := member = none ∨ member = some .null ∨ member = some (.string [])

/-- Both members are the same text, or neither says anything. -/
def SameText (name : Text) (j j' : Json) : Prop :=
  (Unset (get? name j) ∧ Unset (get? name j')) ∨ ∃ t, get? name j = some (.string t) ∧ get? name j' = some (.string t)

/-- What is read of a member that is a text is this text. -/
theorem textOf_eq {name t : Text} {j : Json} (h : get? name j = some (.string t)) : textOf name j = t := by
  rw [textOf, h]
  rfl

/-- What is read of a member that says nothing is the empty text. -/
theorem textOf_of_unset {name : Text} {j : Json} (h : Unset (get? name j)) : textOf name j = [] := by
  rw [textOf]
  rcases h with h | h | h <;> rw [h] <;> rfl

/-- Of members that say the same the same text is read. -/
theorem SameText.textOf_eq {name : Text} {j j' : Json} (h : SameText name j j') : textOf name j = textOf name j' := by
  rcases h with ⟨h, h'⟩ | ⟨t, h, h'⟩
  · rw [textOf_of_unset h, textOf_of_unset h']
  · rw [Json.textOf_eq h, Json.textOf_eq h']

end Json

open Json (Unset SameText)

/-- Both entries say the same of a taint. -/
structure Taint.SameEntry (e e' : Json) : Prop where
  key : SameText "key".toList e e'
  value : SameText "value".toList e e'
  effect : SameText "effect".toList e e'

/-- Entries that say the same of a taint are read alike. -/
theorem Taint.SameEntry.ofEntry_eq {e e' : Json} (h : Taint.SameEntry e e') : Taint.ofEntry e = Taint.ofEntry e' := by
  rw [Taint.ofEntry, Taint.ofEntry, h.key.textOf_eq, h.value.textOf_eq, h.effect.textOf_eq]

/-- A member that says nothing or `Equal` is the operator `equal`. -/
def Operator.IsEqual (member : Option Json) : Prop := Unset member ∨ member = some (.string Operator.equal.name)

/-- Both entries say the same of a toleration. -/
structure Toleration.SameEntry (e e' : Json) : Prop extends Taint.SameEntry e e' where
  operator : (Operator.IsEqual (Json.get? "operator".toList e) ∧ Operator.IsEqual (Json.get? "operator".toList e')) ∨
    SameText "operator".toList e e'

/-- An operator that is not said is `equal`, and so is the one that is called so. -/
theorem Operator.ofField_of_isEqual {e : Json} (h : Operator.IsEqual (Json.get? "operator".toList e)) :
    Operator.ofField (Json.textOf "operator".toList e) = .ok .equal := by
  rcases h with h | h
  · rw [Json.textOf_of_unset h]
    rfl
  · rw [Json.textOf_eq h]
    rfl

/-- Entries that say the same of a toleration are read alike. -/
theorem Toleration.SameEntry.ofEntry_eq {e e' : Json} (h : Toleration.SameEntry e e') :
    Toleration.ofEntry e = Toleration.ofEntry e' := by
  have hoperator : Operator.ofField (Json.textOf "operator".toList e) = Operator.ofField (Json.textOf "operator".toList e') := by
    rcases h.operator with ⟨hequal, hequal'⟩ | hsame
    · rw [Operator.ofField_of_isEqual hequal, Operator.ofField_of_isEqual hequal']
    · rw [hsame.textOf_eq]
  rw [Toleration.ofEntry, Toleration.ofEntry, hoperator, h.toSameEntry.ofEntry_eq]

namespace Listed

/-- The lists of two bodies are equally long, and their entries can be decoded and say the same one by one. -/
def SameList (α : Type) [Listed α] (same : Json → Json → Prop) (body body' : Json) : Prop :=
  List.Forall₂ (fun e e' => (shape α).fits e = true ∧ (shape α).fits e' = true ∧ same e e') (entries α body) (entries α body')

variable {α : Type} [Listed α] {same : Json → Json → Prop} {body body' : Json}

/-- Only what it says counts of an entry that can be decoded. -/
theorem readEntry_of_fits {e : Json} (h : (shape α).fits e = true) :
    (readEntry e : Except EntryError α) = (ofEntry e).mapError .specifier := if_pos h

/-- Such lists are read alike. -/
theorem SameList.extract_eq (h : SameList α same body body')
    (hentry : ∀ e e', same e e' → (ofEntry e : Except SpecifierError α) = ofEntry e') :
    (extract body : Except EntryError (List α)) = extract body' := by
  refine mapM_congr (h.imp ?_)
  rintro e e' ⟨hfits, hfits', hsame⟩
  rw [readEntry_of_fits hfits, readEntry_of_fits hfits', hentry e e' hsame]

/-- Nothing but a specifier can be the error of a list that can be decoded. -/
theorem SameList.exists_specifier (h : SameList α same body body') {e : EntryError}
    (herror : (extract body : Except EntryError (List α)) = .error e) : ∃ cause, e = .specifier cause := by
  obtain ⟨before, entry, after, hentries, -, hentry⟩ := mapM_eq_error_iff.mp herror
  have hfits : (shape α).fits entry = true := (List.forall₂_and_left _ _).mp h |>.1 entry (by simp [hentries])
  rw [readEntry_of_fits hfits] at hentry
  cases hread : (ofEntry entry : Except SpecifierError α) with
  | ok thing =>
    rw [hread] at hentry
    cases hentry
  | error cause =>
    rw [hread] at hentry
    cases hentry
    exact ⟨cause, rfl⟩

/-- The same list is read from both bodies, or the same specifier is the error. -/
def ReadAlike (α : Type) [Listed α] (body body' : Json) : Prop :=
  (∃ items : List α, extract body = .ok items ∧ extract body' = .ok items) ∨
    ∃ cause, (extract body : Except EntryError (List α)) = .error (.specifier cause) ∧
      (extract body' : Except EntryError (List α)) = .error (.specifier cause)

/-- Bodies whose lists say the same are read alike. -/
theorem SameList.readAlike (h : SameList α same body body')
    (hentry : ∀ e e', same e e' → (ofEntry e : Except SpecifierError α) = ofEntry e') : ReadAlike α body body' := by
  unfold ReadAlike
  rw [← h.extract_eq hentry]
  cases hread : (extract body : Except EntryError (List α)) with
  | ok items => exact Or.inl ⟨items, rfl, rfl⟩
  | error e =>
    obtain ⟨cause, rfl⟩ := h.exists_specifier hread
    exact Or.inr ⟨cause, rfl, rfl⟩

end Listed

open Listed (SameList ReadAlike)

/-- An object stands in the place of another one when it is this one, or when it has its namespace and its name and a list that says
the same. -/
def Settings.Replaces (s : Settings) (o o' : Object) : Prop :=
  o' = o ∨ (o'.ns = o.ns ∧ o'.name = o.name ∧
    match s.command with
    | .taints => SameList Taint Taint.SameEntry o.body o'.body
    | .tolerations .. => SameList Toleration Toleration.SameEntry o.body o'.body)

/-- Of an object its namespace, its name and its list are read. -/
theorem Inventory.readObject_congr {α : Type} [Listed α] (kind : Text) {o o' : Object} (hns : o'.ns = o.ns)
    (hname : o'.name = o.name) (hread : (Listed.extract o.body : Except EntryError (List α)) = Listed.extract o'.body) :
    (Inventory.readObject kind o : Except Unreadable (Resource × List α)) = Inventory.readObject kind o' := by
  rw [Inventory.readObject, Inventory.readObject, hread, Object.resource, Object.resource, hns, hname]

/-- An object is read like the one in whose place it stands. -/
theorem Settings.Summarizes.readObject_eq {s : Settings} {α : Type} [listed : Listed α] [decEq : DecidableEq α]
    (hs : s.Summarizes α listed decEq) (kind : Text) {o o' : Object} (h : s.Replaces o o') :
    (Inventory.readObject kind o : Except Unreadable (Resource × List α)) = Inventory.readObject kind o' := by
  rcases h with rfl | ⟨hns, hname, hlist⟩
  · rfl
  · cases hs with
    | taints command =>
      rw [command] at hlist
      exact Inventory.readObject_congr kind hns hname (hlist.extract_eq fun _ _ => Taint.SameEntry.ofEntry_eq)
    | tolerations command =>
      rw [command] at hlist
      exact Inventory.readObject_congr kind hns hname (hlist.extract_eq fun _ _ => Toleration.SameEntry.ofEntry_eq)

/-- Objects in the places of other ones give the same inventory, or the same error. -/
theorem Settings.Summarizes.ofObjects_eq {s : Settings} {α : Type} [listed : Listed α] [decEq : DecidableEq α]
    (hs : s.Summarizes α listed decEq) (kind : Text) {objects objects' : List Object}
    (h : List.Forall₂ s.Replaces objects objects') :
    (Inventory.ofObjects kind objects : Except Unreadable (Inventory α)) = Inventory.ofObjects kind objects' := by
  rw [Inventory.ofObjects, Inventory.ofObjects, mapM_congr (h.imp fun _ _ => hs.readObject_eq kind)]

namespace Summary

variable {s : Settings} {objects objects' : List Object} (kind : Text) (h : List.Forall₂ s.Replaces objects objects')
include h

/-- Objects in the places of other ones have the same summary, when the resources are visited in the same order. -/
theorem run_congr : run s kind objects = run s kind objects' := by
  obtain ⟨α, _, _, hs⟩ := s.exists_summarizes
  simp only [hs.run_eq, ofFilter, ofObjects, hs.ofObjects_eq kind h]

/-- The same may come of their summary, whatever the order in which the resources are visited. -/
theorem mayEnd_congr (outcome : Except RunError Text) : MayEnd s kind objects outcome ↔ MayEnd s kind objects' outcome := by
  cases outcome with
  | error e => rw [MayEnd, MayEnd, run_congr kind h]
  | ok text =>
    obtain ⟨α, _, _, hs⟩ := s.exists_summarizes
    simp only [MayEnd, hs.mayPrint_iff, MayPrintFor, hs.ofObjects_eq kind h]

end Summary

/-- Lists that say the same are read alike, to the same items or to the same error. And objects in the places of other ones, whose
lists say the same, are summarized alike: the same texts may be printed for both, or the summaries of both have the same error. There
is no choice, and both have one and the same summary, when an object cannot be read, or when no two have the same sort key. -/
theorem replacements_summarized_alike :
    (∀ body body', SameList Taint Taint.SameEntry body body' → ReadAlike Taint body body') ∧
      (∀ body body', SameList Toleration Toleration.SameEntry body body' → ReadAlike Toleration body body') ∧
        ∀ (s : Settings) (kind : Text) (objects objects' : List Object), List.Forall₂ s.Replaces objects objects' →
          (∀ outcome, Summary.MayEnd s kind objects outcome ↔ Summary.MayEnd s kind objects' outcome) ∧
            ((∃ e, Summary.run s kind objects = .error e) ∨ (objects.map s.sortKey).Nodup →
              Summary.run s kind objects = Summary.run s kind objects' ∧
                ∀ outcome, Summary.MayEnd s kind objects outcome → outcome = Summary.run s kind objects) :=
  ⟨fun _ _ h => h.readAlike fun _ _ => Taint.SameEntry.ofEntry_eq,
    fun _ _ h => h.readAlike fun _ _ => Toleration.SameEntry.ofEntry_eq,
    fun _ kind _ _ h => ⟨Summary.mayEnd_congr kind h, fun hsingle =>
      ⟨Summary.run_congr kind h, fun _ => Summary.eq_run_of_mayEnd hsingle⟩⟩⟩

/-- A taint with a time and one with an unknown field, and a toleration without an operator and one that says `Equal`. -/
theorem replacements_summarized_alike_other_fields :
    let taints (entry : Json) : Json := .object [("spec".toList, .object [("taints".toList, .array [entry])])]
    let tolerations (entry : Json) : Json := .object [("spec".toList, .object [("template".toList,
      .object [("spec".toList, .object [("tolerations".toList, .array [entry])])])])]
    let tainted := taints (.object [("key".toList, .string "ssd".toList), ("value".toList, .null),
      ("timeAdded".toList, .string "2024-02-29T12:00:00Z".toList)])
    let tainted' := taints (.object [("effect".toList, .string []), ("key".toList, .string "ssd".toList),
      ("reason".toList, .bool true)])
    let tolerant := tolerations (.object [("key".toList, .string "ssd".toList), ("tolerationSeconds".toList, .integer 30)])
    let tolerant' := tolerations (.object [("key".toList, .string "ssd".toList), ("operator".toList, .string "Equal".toList)])
    let s : Settings := ⟨.tolerations "apps/v1".toList "deployments".toList, some ⟨"Equal(ssd)".toList, .matching⟩, none, none,
      none, .table, false, false⟩
    let web : Object := ⟨"prod".toList, "web".toList, tolerant⟩
    let web' : Object := ⟨"prod".toList, "web".toList, tolerant'⟩
    let api : Object := ⟨"prod".toList, "api".toList, tolerant⟩
    SameList Taint Taint.SameEntry tainted tainted' ∧ ReadAlike Taint tainted tainted' ∧
      SameList Toleration Toleration.SameEntry tolerant tolerant' ∧ ReadAlike Toleration tolerant tolerant' ∧
      List.Forall₂ s.Replaces [web, api] [web', api] ∧
      (∀ outcome, Summary.MayEnd s "Deployment".toList [web, api] outcome ↔
        Summary.MayEnd s "Deployment".toList [web', api] outcome) ∧
      Summary.run s "Deployment".toList [web, api] = Summary.run s "Deployment".toList [web', api] ∧
      ∀ outcome, Summary.MayEnd s "Deployment".toList [web, api] outcome →
        outcome = Summary.run s "Deployment".toList [web, api] := by
  intro taints tolerations tainted tainted' tolerant tolerant' s web web' api
  obtain ⟨htaints, htolerations, hrun⟩ := replacements_summarized_alike
  have hunset : Unset none := Or.inl rfl
  have hsame : SameList Taint Taint.SameEntry tainted tainted' :=
    .cons ⟨by decide, by decide, Or.inr ⟨_, rfl, rfl⟩, Or.inl ⟨Or.inr (Or.inl rfl), hunset⟩,
      Or.inl ⟨hunset, Or.inr (Or.inr rfl)⟩⟩ .nil
  have hsame' : SameList Toleration Toleration.SameEntry tolerant tolerant' :=
    .cons ⟨by decide, by decide, ⟨Or.inr ⟨_, rfl, rfl⟩, Or.inl ⟨hunset, hunset⟩, Or.inl ⟨hunset, hunset⟩⟩,
      Or.inl ⟨Or.inl hunset, Or.inr rfl⟩⟩ .nil
  have hreplaces : List.Forall₂ s.Replaces [web, api] [web', api] :=
    .cons (Or.inr ⟨rfl, rfl, hsame'⟩) (.cons (Or.inl rfl) .nil)
  obtain ⟨houtcomes, hsingle⟩ := hrun s "Deployment".toList _ _ hreplaces
  exact ⟨hsame, htaints _ _ hsame, hsame', htolerations _ _ hsame', hreplaces, houtcomes, hsingle (Or.inr (by decide))⟩

end TaintSummary
