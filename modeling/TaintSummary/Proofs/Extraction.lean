import TaintSummary.Proofs.Json.Path
import TaintSummary.Proofs.Json.Shape
import TaintSummary.Proofs.Results
import TaintSummary.RunError

/-!
# Reading the list of a body

A body carries a list when the path leads to an array in it, and otherwise nothing is read and nothing is wrong. A list is read
whole: when every entry stands for something, and then as what the entries stand for, one by one; and otherwise the first entry that
is refused is the error, whatever comes after it (`extract_all_or_nothing`). Which entries are refused, and why, is said here
without the reader: an entry that cannot be decoded, an operator that there is not, an effect that there is not, in this order.
-/

namespace TaintSummary

open Json (Says IsOptionalText LeadsTo LeadsNowhere)

/-- The name of an effect; an empty one names none. -/
def Effect.IsNamed (name : Text) (effect : Option Effect) : Prop :=
  (name = [] ∧ effect = none) ∨ ∃ e : Effect, effect = some e ∧ name = e.name

/-- The name of an operator; an empty one stands for `equal`. -/
def Operator.IsNamed (name : Text) (operator : Operator) : Prop :=
  (name = [] ∧ operator = .equal) ∨ name = operator.name

/-- The field of an effect is read as the effect that it names. -/
theorem Effect.ofField_eq_ok_iff {name : Text} {effect : Option Effect} :
    Effect.ofField name = .ok effect ↔ Effect.IsNamed name effect := by
  unfold Effect.ofField Effect.IsNamed
  split
  · next hempty =>
    have hname : ∀ e : Effect, [] ≠ e.name := fun e => by cases e <;> decide
    simp [hempty, hname, eq_comm]
  · next hne =>
    rw [map_eq_ok_iff]
    simp only [hne, Effect.ofName_eq_ok_iff, false_and, false_or, and_comm, @eq_comm _ (some _) effect]

/-- The field of an effect is refused when it is not empty and the name of no effect, and the error tells what it is. -/
theorem Effect.ofField_eq_error_iff {name : Text} {err : SpecifierError} :
    Effect.ofField name = .error err ↔ err = .invalidEffect name ∧ name ≠ [] ∧ ∀ e : Effect, name ≠ e.name := by
  unfold Effect.ofField
  split
  · next hempty => simp [hempty]
  · next hne =>
    rw [and_left_comm, and_iff_right hne, ← Effect.ofName_eq_error_iff]
    cases Effect.ofName name <;> simp [Except.map]

/-- The field of an operator is read as the operator that it names. -/
theorem Operator.ofField_eq_ok_iff {name : Text} {operator : Operator} :
    Operator.ofField name = .ok operator ↔ Operator.IsNamed name operator := by
  have hempty : ∀ o : Operator, [] ≠ o.name := fun o => by cases o <;> decide
  have hdistinct : Operator.equal.name ≠ Operator.exists.name := by decide
  unfold Operator.ofField Operator.IsNamed
  split
  · next hequal =>
    rcases hequal with rfl | rfl <;> cases operator <;> simp [hempty, hdistinct]
  · next hother =>
    rw [not_or] at hother
    split
    · next hexists => cases operator <;> simp [hexists, hdistinct.symm, (hempty .exists).symm]
    · next hnone => cases operator <;> simp [hother, hnone]

/-- The field of an operator is refused when it is not empty and the name of no operator, and the error tells what it is. -/
theorem Operator.ofField_eq_error_iff {name : Text} {err : SpecifierError} :
    Operator.ofField name = .error err ↔
      err = .invalidOperator name ∧ name ≠ [] ∧ ∀ o : Operator, name ≠ o.name := by
  unfold Operator.ofField
  split
  · next hequal =>
    refine iff_of_false nofun fun h => ?_
    rcases hequal with hempty | hequal
    · exact h.2.1 hempty
    · exact h.2.2 .equal hequal
  · next hother =>
    rw [not_or] at hother
    split
    · next hexists => exact iff_of_false nofun fun h => h.2.2 .exists hexists
    · next hnone =>
      have hnames : ∀ o : Operator, name ≠ o.name := fun o => by cases o <;> simp [hother, hnone]
      simp [hother, hnames, eq_comm]

namespace Taint

/-- The entry of a taint list can be decoded: it is an object, with texts where texts belong and a timestamp for the time, or null. -/
def Decodes (entry : Json) : Prop :=
  ∃ members, entry = .object members ∧ ∀ name value, (name, value) ∈ members →
    (name ∈ ["key".toList, "value".toList, "effect".toList] → IsOptionalText value) ∧
      (name = "timeAdded".toList → value = .null ∨ ∃ t, value = .string t ∧ Timestamp.isTimestamp t = true)

/-- The taint is what the entry says. -/
structure IsSaid (entry : Json) (t : Taint) : Prop where
  key : Says "key".toList entry t.key
  value : Says "value".toList entry t.value
  effect : ∃ name, Says "effect".toList entry name ∧ Effect.IsNamed name t.effect

/-- The entry says no taint, for the reason. -/
inductive Misnames (entry : Json) : SpecifierError → Prop
  | effect {name : Text} (said : Says "effect".toList entry name) (nonempty : name ≠ [])
      (unknown : ∀ e : Effect, name ≠ e.name) : Misnames entry (.invalidEffect name)

end Taint

namespace Toleration

/-- The entry of a toleration list can be decoded: it is an object, with texts where texts belong and an integer of 64 bits for the
seconds, or null. -/
def Decodes (entry : Json) : Prop :=
  ∃ members, entry = .object members ∧ ∀ name value, (name, value) ∈ members →
    (name ∈ ["key".toList, "operator".toList, "value".toList, "effect".toList] → IsOptionalText value) ∧
      (name = "tolerationSeconds".toList →
        value = .null ∨ ∃ n : Int, value = .integer n ∧ -9223372036854775808 ≤ n ∧ n ≤ 9223372036854775807)

/-- The toleration is what the entry says. -/
structure IsSaid (entry : Json) (t : Toleration) : Prop extends Taint.IsSaid entry t.taint where
  operator : ∃ name, Says "operator".toList entry name ∧ Operator.IsNamed name t.operator

/-- The entry says no toleration, for the reason. -/
inductive Misnames (entry : Json) : SpecifierError → Prop
  | operator {name : Text} (said : Says "operator".toList entry name) (nonempty : name ≠ [])
      (unknown : ∀ o : Operator, name ≠ o.name) : Misnames entry (.invalidOperator name)
  /-- The effect is looked at only when there is an operator. -/
  | taint (known : ∃ name operator, Says "operator".toList entry name ∧ Operator.IsNamed name operator) {e : SpecifierError}
      (misnamed : Taint.Misnames entry e) : Misnames entry e

end Toleration

/-- The entry has text, null or nothing under each of the names. -/
def Json.HasTexts (names : List Text) (entry : Json) : Prop :=
  ∀ name ∈ names, ∀ value, Json.get? name entry = some value → IsOptionalText value

/-! ## Entries of a taint list -/

namespace Taint

/-- The shape of an entry is what the reader checks before it reads a taint. -/
theorem fits_shape_iff {entry : Json} : shape.fits entry = true ↔ Decodes entry := by
  rw [shape, Shape.fits_options_iff (by decide)]
  refine exists_congr fun members => and_congr_right fun _ => ?_
  rw [Prod.forall]
  refine forall₂_congr fun name value => imp_congr_right fun _ => ?_
  simp only [List.forall_mem_cons, Shape.fits_text_iff, Shape.fits_timestamp_iff]
  simp only [List.mem_cons, List.not_mem_nil, or_false]
  constructor
  · rintro ⟨heffect, hkey, htime, hvalue, -⟩
    refine ⟨?_, htime⟩
    rintro (hname | hname | hname)
    · exact hkey hname
    · exact hvalue hname
    · exact heffect hname
  · rintro ⟨htexts, htime⟩
    exact ⟨fun hname => htexts (Or.inr (Or.inr hname)), fun hname => htexts (Or.inl hname), htime,
      fun hname => htexts (Or.inr (Or.inl hname)), by simp⟩

/-- What is read of an entry of a taint list is text, null or missing once the entry can be decoded. -/
theorem Decodes.hasTexts {entry : Json} (h : Decodes entry) :
    entry.HasTexts ["key".toList, "value".toList, "effect".toList] := by
  obtain ⟨members, rfl, hmembers⟩ := h
  exact fun name hname value hvalue => (hmembers name value (Json.mem_of_get? hvalue)).1 hname

section

variable {entry : Json} (h : entry.HasTexts ["key".toList, "value".toList, "effect".toList])
include h

/-- The taint of an entry is what the entry says. -/
theorem ofEntry_eq_ok_iff {t : Taint} : ofEntry entry = .ok t ↔ IsSaid entry t := by
  have hkey := fun {t : Text} => @Json.says_iff _ t _ (h "key".toList (by simp))
  have hvalue := fun {t : Text} => @Json.says_iff _ t _ (h "value".toList (by simp))
  have heffect := fun {t : Text} => @Json.says_iff _ t _ (h "effect".toList (by simp))
  rw [ofEntry, map_eq_ok_iff]
  constructor
  · rintro ⟨effect, hfield, rfl⟩
    exact ⟨hkey.mpr rfl, hvalue.mpr rfl, _, heffect.mpr rfl, Effect.ofField_eq_ok_iff.mp hfield⟩
  · rintro ⟨hk, hv, name, he, hnamed⟩
    refine ⟨t.effect, ?_, ?_⟩
    · rw [heffect.mp he]
      exact Effect.ofField_eq_ok_iff.mpr hnamed
    · rw [hkey.mp hk, hvalue.mp hv]

/-- An entry is refused exactly when it names an effect that there is not. -/
theorem ofEntry_eq_error_iff {e : SpecifierError} : ofEntry entry = .error e ↔ Misnames entry e := by
  have heffect := fun {t : Text} => @Json.says_iff _ t _ (h "effect".toList (by simp))
  rw [ofEntry, map_eq_error_iff, Effect.ofField_eq_error_iff]
  constructor
  · rintro ⟨rfl, hne, hunknown⟩
    exact .effect (heffect.mpr rfl) hne hunknown
  · rintro ⟨hsaid, hne, hunknown⟩
    rw [heffect.mp hsaid]
    exact ⟨rfl, hne, hunknown⟩

end

end Taint

/-! ## Entries of a toleration list -/

namespace Toleration

/-- The shape of an entry is what the reader checks before it reads a toleration. -/
theorem fits_shape_iff {entry : Json} : shape.fits entry = true ↔ Decodes entry := by
  have hint64 : ∀ value : Json, Shape.int64.fits value = true ↔
      ∃ n : Int, value = .integer n ∧ -9223372036854775808 ≤ n ∧ n ≤ 9223372036854775807 := by
    intro value
    rw [Shape.fits_int64_iff]
    refine exists_congr fun n => and_congr_right fun _ => and_congr_right fun _ => ?_
    rw [Shape.int64Bound]
    omega
  rw [shape, Shape.fits_options_iff (by decide)]
  refine exists_congr fun members => and_congr_right fun _ => ?_
  rw [Prod.forall]
  refine forall₂_congr fun name value => imp_congr_right fun _ => ?_
  simp only [List.forall_mem_cons, Shape.fits_text_iff, hint64]
  simp only [List.mem_cons, List.not_mem_nil, or_false]
  constructor
  · rintro ⟨heffect, hkey, hoperator, hseconds, hvalue, -⟩
    refine ⟨?_, hseconds⟩
    rintro (hname | hname | hname | hname)
    · exact hkey hname
    · exact hoperator hname
    · exact hvalue hname
    · exact heffect hname
  · rintro ⟨htexts, hseconds⟩
    exact ⟨fun hname => htexts (Or.inr (Or.inr (Or.inr hname))), fun hname => htexts (Or.inl hname),
      fun hname => htexts (Or.inr (Or.inl hname)), hseconds, fun hname => htexts (Or.inr (Or.inr (Or.inl hname))), by simp⟩

section

variable {entry : Json} (h : Decodes entry)
include h

/-- What is read of an entry of a toleration list is text, null or missing once the entry can be decoded. -/
theorem Decodes.hasTexts : entry.HasTexts ["key".toList, "operator".toList, "value".toList, "effect".toList] := by
  obtain ⟨members, rfl, hmembers⟩ := h
  exact fun name hname value hvalue => (hmembers name value (Json.mem_of_get? hvalue)).1 hname

/-- What it has in common with an entry of a taint list is text, null or missing as well. -/
theorem Decodes.hasTaintTexts : entry.HasTexts ["key".toList, "value".toList, "effect".toList] := by
  intro name hname
  refine h.hasTexts name ?_
  simp only [List.mem_cons] at hname ⊢
  exact hname.imp_right Or.inr

/-- The operator of an entry is the one that the entry names. -/
theorem operator_eq_ok_iff {operator : Operator} :
    Operator.ofField (Json.textOf "operator".toList entry) = .ok operator ↔
      ∃ name, Says "operator".toList entry name ∧ Operator.IsNamed name operator := by
  simp only [Json.says_iff (h.hasTexts "operator".toList (by simp)), exists_eq_left', Operator.ofField_eq_ok_iff]

/-- The operator is refused when the entry names one that there is not. -/
theorem operator_eq_error_iff {err : SpecifierError} :
    Operator.ofField (Json.textOf "operator".toList entry) = .error err ↔
      ∃ name, Says "operator".toList entry name ∧ err = .invalidOperator name ∧ name ≠ [] ∧
        ∀ o : Operator, name ≠ o.name := by
  simp only [Json.says_iff (h.hasTexts "operator".toList (by simp)), exists_eq_left', Operator.ofField_eq_error_iff]

/-- The toleration of an entry is what the entry says. -/
theorem ofEntry_eq_ok_iff {t : Toleration} : ofEntry entry = .ok t ↔ IsSaid entry t := by
  rw [ofEntry, bind_eq_ok_iff]
  constructor
  · rintro ⟨operator, hoperator, htaint⟩
    obtain ⟨taint, hread, rfl⟩ := map_eq_ok_iff.mp htaint
    exact ⟨(Taint.ofEntry_eq_ok_iff h.hasTaintTexts).mp hread, (operator_eq_ok_iff h).mp hoperator⟩
  · rintro ⟨hsaid, hoperator⟩
    exact ⟨t.operator, (operator_eq_ok_iff h).mpr hoperator,
      map_eq_ok_iff.mpr ⟨t.taint, (Taint.ofEntry_eq_ok_iff h.hasTaintTexts).mpr hsaid, rfl⟩⟩

/-- An entry is refused for its operator first, and for its effect only when there is such an operator. -/
theorem ofEntry_eq_error_iff {e : SpecifierError} : ofEntry entry = .error e ↔ Misnames entry e := by
  rw [ofEntry, bind_eq_error_iff]
  simp only [map_eq_error_iff, Taint.ofEntry_eq_error_iff h.hasTaintTexts]
  constructor
  · rintro (hoperator | ⟨operator, hoperator, htaint⟩)
    · obtain ⟨name, hsaid, rfl, hne, hunknown⟩ := (operator_eq_error_iff h).mp hoperator
      exact .operator hsaid hne hunknown
    · obtain ⟨name, hsaid, hnamed⟩ := (operator_eq_ok_iff h).mp hoperator
      exact .taint ⟨name, operator, hsaid, hnamed⟩ htaint
  · intro hmisnames
    cases hmisnames with
    | operator hsaid hne hunknown => exact Or.inl ((operator_eq_error_iff h).mpr ⟨_, hsaid, rfl, hne, hunknown⟩)
    | taint hknown htaint =>
      obtain ⟨name, operator, hsaid, hnamed⟩ := hknown
      exact Or.inr ⟨operator, (operator_eq_ok_iff h).mpr ⟨name, hsaid, hnamed⟩, htaint⟩

end

end Toleration

/-! ## Lists -/

namespace Listed

variable {α : Type} [Listed α]

/-- Why an entry is refused: it cannot be decoded, or it can be and says nothing of the kind. -/
inductive Refuses (path : List Text) (decodes : Json → Prop) (misnames : Json → SpecifierError → Prop) (entry : Json) :
    EntryError → Prop
  | undecodable (h : ¬decodes entry) : Refuses path decodes misnames entry (.undecodable path entry)
  | specifier (h : decodes entry) {e : SpecifierError} (misnamed : misnames entry e) :
      Refuses path decodes misnames entry (.specifier e)

/-- What comes of reading the list at the path, which is written with dots in messages, from the body. -/
structure ReadsList (path : List Text) (dotted : Text) (decodes : Json → Prop) (isSaid : Json → α → Prop)
    (misnames : Json → SpecifierError → Prop) (body : Json) : Prop where
  /-- The path leads to a list or nowhere. -/
  leads : LeadsNowhere path body ↔ ¬∃ entries, LeadsTo path body entries
  nothing : LeadsNowhere path body → (extract body : Except EntryError (List α)) = .ok []
  /-- The list is read as what its entries say, one by one. -/
  ok_iff : ∀ entries, LeadsTo path body entries → ∀ items, extract body = .ok items ↔
    List.Forall₂ (fun entry item => decodes entry ∧ isSaid entry item) entries items
  succeeds : ∀ entries, LeadsTo path body entries →
    ((∃ items : List α, extract body = .ok items) ↔ ∀ entry ∈ entries, decodes entry ∧ ∃ item, isSaid entry item)
  /-- Otherwise the error is that of the first entry that is refused, whatever stands after it. -/
  error_iff : ∀ entries, LeadsTo path body entries → ∀ e, (extract body : Except EntryError (List α)) = .error e ↔
    ∃ before entry after, entries = before ++ entry :: after ∧ (∀ b ∈ before, decodes b ∧ ∃ item, isSaid b item) ∧
      Refuses path decodes misnames entry e
  /-- An entry that can be decoded is misnamed when it says nothing of the kind, and not otherwise. -/
  misnamed_iff : ∀ entry, decodes entry → ((∃ e, misnames entry e) ↔ ¬∃ item, isSaid entry item)
  /-- An entry that cannot be decoded is named by the path and the entry. -/
  message : ∀ entry, (EntryError.undecodable path entry).messages =
    ["Failed to decode ".toList ++ dotted ++ " entry: ".toList ++ Json.compact entry]

/-- The reader of entries tells which of them can be decoded, and what those say. -/
structure ReadsEntries (decodes : Json → Prop) (isSaid : Json → α → Prop) (misnames : Json → SpecifierError → Prop) :
    Prop where
  fits_iff : ∀ entry, (shape α).fits entry = true ↔ decodes entry
  ok_iff : ∀ entry, decodes entry → ∀ item : α, ofEntry entry = .ok item ↔ isSaid entry item
  error_iff : ∀ entry, decodes entry → ∀ e, (ofEntry entry : Except SpecifierError α) = .error e ↔ misnames entry e

section

variable {decodes : Json → Prop} {isSaid : Json → α → Prop} {misnames : Json → SpecifierError → Prop}
  (h : ReadsEntries decodes isSaid misnames)
include h

/-- An entry stands for a thing when it can be decoded and says that thing. -/
theorem ReadsEntries.readEntry_eq_ok_iff {entry : Json} {item : α} :
    readEntry entry = .ok item ↔ decodes entry ∧ isSaid entry item := by
  unfold readEntry
  split
  · next hfits =>
    have hdecodes := (h.fits_iff entry).mp hfits
    rw [and_iff_right hdecodes, ← h.ok_iff entry hdecodes]
    cases (ofEntry entry : Except SpecifierError α) <;> simp
  · next hfits => simp [mt (h.fits_iff entry).mpr hfits]

/-- Otherwise the error is the reason for which the entry is refused. -/
theorem ReadsEntries.readEntry_eq_error_iff {entry : Json} {e : EntryError} :
    (readEntry entry : Except EntryError α) = .error e ↔ Refuses (path α) decodes misnames entry e := by
  unfold readEntry
  split
  · next hfits =>
    have hdecodes := (h.fits_iff entry).mp hfits
    have herror := h.error_iff entry hdecodes
    constructor
    · intro hread
      cases hentry : (ofEntry entry : Except SpecifierError α) with
      | ok item =>
        rw [hentry] at hread
        cases hread
      | error cause =>
        rw [hentry] at hread
        cases hread
        exact .specifier hdecodes ((herror cause).mp hentry)
    · rintro (hnot | ⟨-, hmisnamed⟩)
      · exact absurd hdecodes hnot
      · rw [(herror _).mpr hmisnamed]
        rfl
  · next hfits =>
    have hnot := mt (h.fits_iff entry).mpr hfits
    constructor
    · rintro ⟨⟩
      exact .undecodable hnot
    · rintro (_ | ⟨hdecodes, -⟩)
      · rfl
      · exact absurd hdecodes hnot

/-- An entry stands for something when it can be decoded and says something of the kind. -/
theorem ReadsEntries.exists_readEntry_iff {entry : Json} :
    (∃ item : α, readEntry entry = .ok item) ↔ decodes entry ∧ ∃ item, isSaid entry item := by
  simp only [h.readEntry_eq_ok_iff, exists_and_left]

end

/-- Where the path leads nowhere, the empty list is read. -/
theorem extract_of_leadsNowhere {body : Json} (h : LeadsNowhere (path α) body) :
    (extract body : Except EntryError (List α)) = .ok [] := by
  rw [extract, entries, Json.follow?_array_eq_none_iff.mpr h]
  rfl

/-- Where the path leads to a list, its entries are read, one by one. -/
theorem extract_of_leadsTo {body : Json} {entries : List Json} (h : LeadsTo (path α) body entries) :
    (extract body : Except EntryError (List α)) = entries.mapM readEntry := by
  rw [extract, Listed.entries, Json.follow?_array_eq_some_iff.mpr h]
  rfl

/-- What holds of the reader of entries carries over to lists: the first entry that is refused decides. -/
theorem ReadsEntries.readsList {decodes : Json → Prop} {isSaid : Json → α → Prop}
    {misnames : Json → SpecifierError → Prop} (h : ReadsEntries decodes isSaid misnames) {dotted : Text}
    (hdotted : Text.join ['.'] (path α) = dotted) (body : Json) :
    ReadsList (path α) dotted decodes isSaid misnames body := by
  constructor
  case leads =>
    simp only [← Json.follow?_array_eq_none_iff, ← Json.follow?_array_eq_some_iff]
    cases (Json.follow? (path α) body).bind Json.array? <;> simp
  case nothing => exact extract_of_leadsNowhere
  case ok_iff =>
    intro entries hleads items
    rw [extract_of_leadsTo hleads, mapM_eq_ok_iff]
    simp only [h.readEntry_eq_ok_iff]
  case succeeds =>
    intro entries hleads
    simp only [extract_of_leadsTo hleads, mapM_ok_iff, h.exists_readEntry_iff]
  case error_iff =>
    intro entries hleads e
    rw [extract_of_leadsTo hleads, mapM_eq_error_iff]
    simp only [h.exists_readEntry_iff, h.readEntry_eq_error_iff]
  case misnamed_iff =>
    intro entry hdecodes
    simp only [← h.ok_iff entry hdecodes, ← h.error_iff entry hdecodes]
    cases (ofEntry entry : Except SpecifierError α) <;> simp
  case message =>
    intro entry
    rw [EntryError.messages, hdotted]

end Listed

/-- The entries of a taint list are read by what they say of a taint. -/
theorem Taint.readsEntries : Listed.ReadsEntries Taint.Decodes Taint.IsSaid Taint.Misnames where
  fits_iff := fun _ => Taint.fits_shape_iff
  ok_iff := fun _ h _ => Taint.ofEntry_eq_ok_iff h.hasTexts
  error_iff := fun _ h _ => Taint.ofEntry_eq_error_iff h.hasTexts

/-- The entries of a toleration list are read by what they say of a toleration. -/
theorem Toleration.readsEntries : Listed.ReadsEntries Toleration.Decodes Toleration.IsSaid Toleration.Misnames where
  fits_iff := fun _ => Toleration.fits_shape_iff
  ok_iff := fun _ h _ => Toleration.ofEntry_eq_ok_iff h
  error_iff := fun _ h _ => Toleration.ofEntry_eq_error_iff h

/-- Whatever a body is, the list that it carries is read whole or its first entry that is refused is the error; a body that carries
no list is read as the empty one. -/
theorem extract_all_or_nothing (body : Json) :
    Listed.ReadsList ["spec".toList, "taints".toList] "spec.taints".toList Taint.Decodes Taint.IsSaid Taint.Misnames
        body ∧
      Listed.ReadsList ["spec".toList, "template".toList, "spec".toList, "tolerations".toList]
        "spec.template.spec.tolerations".toList Toleration.Decodes Toleration.IsSaid Toleration.Misnames body :=
  ⟨Taint.readsEntries.readsList rfl body, Toleration.readsEntries.readsList rfl body⟩

/-- The entry with an effect that there is not comes before the one that cannot be decoded. -/
example :
    let entry (effect : Json) : Json := .object [("effect".toList, effect)]
    Listed.extract (.object [("spec".toList, .object [("taints".toList,
        .array [entry .null, entry (.string "Never".toList), entry (.bool true)])])]) =
      (.error (.specifier (.invalidEffect "Never".toList)) : Except EntryError (List Taint)) := rfl

end TaintSummary
