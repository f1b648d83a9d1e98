import TaintSummary.Json.Shape

/-!
# Which values fit a shape

A shape is a test on values, and here is what the test comes to: null fits what is optional, and an object fits a record when each of
its members fits the field of its name. For a record of optional fields (`fits_options_iff`) that is one condition for each
field, whatever else the object holds.
-/

namespace TaintSummary.Shape

mutual

/-- Every value fits the shape that leaves everything free. -/
theorem fits_any : ∀ j : Json, fits .any j = true
  | .null => rfl
  | .bool _ => rfl
  | .integer _ => rfl
  | .decimal _ => rfl
  | .string _ => rfl
  | .array items => fitItems_any items
  | .object members => fitMembers_any members
  termination_by structural j => j

theorem fitItems_any : ∀ items : List Json, fitItems .any items = true
  | [] => rfl
  | j :: rest => Bool.and_eq_true_iff.mpr ⟨fits_any j, fitItems_any rest⟩
  termination_by structural items => items

theorem fitMembers_any : ∀ members : List (Text × Json), fitMembers .any members = true
  | [] => rfl
  | (_, j) :: rest => Bool.and_eq_true_iff.mpr ⟨fits_any j, fitMembers_any rest⟩
  termination_by structural members => members

end

/-- Null fits an optional shape, and so does what fits the shape. -/
theorem fits_optional_iff {s : Shape} {j : Json} : fits (.optional s) j = true ↔ j = .null ∨ fits s j = true := by
  cases j with
  | null => exact ⟨fun _ => Or.inl rfl, fun _ => rfl⟩
  | _ => exact ⟨Or.inr, fun h => h.resolve_left nofun⟩

/-- What fits the shape of a text is a string. -/
theorem fits_text_iff {j : Json} : fits .text j = true ↔ ∃ t, j = .string t := by
  cases j <;> simp [fits, required, allowsNull, allowsDecimal, allowsObject, item]

/-- What fits the shape of an integer of 64 bits is an integer between its bounds. -/
theorem fits_int64_iff {j : Json} :
    fits .int64 j = true ↔ ∃ n, j = .integer n ∧ -int64Bound ≤ n ∧ n < int64Bound := by
  cases j <;> simp [fits, required, allowsNull, allowsDecimal, allowsObject, item]

/-- What fits the shape of a timestamp is a string that is one. -/
theorem fits_timestamp_iff {j : Json} : fits .timestamp j = true ↔ ∃ t, j = .string t ∧ Timestamp.isTimestamp t = true := by
  cases j <;> simp [fits, required, allowsNull, allowsDecimal, allowsObject, item]

/-- Each member fits the field of its name. -/
theorem fitMembers_record_iff {fields : List (Text × Shape)} {members : List (Text × Json)} :
    fitMembers (.record fields) members = true ↔ ∀ m ∈ members, fits (field fields m.1) m.2 = true := by
  induction members with
  | nil => simp [fitMembers]
  | cons m members ih =>
    have hmember : (member m.1 (.record fields)).any (fits · m.2) = fits (field fields m.1) m.2 := rfl
    rw [fitMembers, Bool.and_eq_true, hmember, ih, List.forall_mem_cons]

/-- Only objects fit a record. -/
theorem fits_record_iff {fields : List (Text × Shape)} {j : Json} :
    fits (.record fields) j = true ↔
      ∃ members, j = .object members ∧ ∀ m ∈ members, fits (field fields m.1) m.2 = true := by
  cases j with
  | object members =>
    have hobject : fits (.record fields) (.object members) = fitMembers (.record fields) members := rfl
    rw [hobject, fitMembers_record_iff]
    constructor
    · exact fun h => ⟨members, rfl, h⟩
    · rintro ⟨_, heq, h⟩
      cases heq
      exact h
  | _ => simp [fits, required, allowsNull, allowsDecimal, item]

/-- A field is the one of its name when no name occurs twice. -/
theorem field_eq {fields : List (Text × Shape)} (h : (fields.map Prod.fst).Nodup) {f : Text × Shape} (hf : f ∈ fields) :
    field fields f.1 = f.2 := by
  obtain ⟨before, after, rfl⟩ := List.append_of_mem hf
  rw [List.map_append, List.map_cons] at h
  have hbefore : ∀ g ∈ before, g.1 ≠ f.1 :=
    fun g hg heq => (List.nodup_append.mp h).2.2 g.1 (List.mem_map_of_mem hg) f.1 List.mem_cons_self heq
  rw [field, List.find?_append, List.find?_eq_none.mpr (by simpa using hbefore)]
  simp

/-- An object fits a record of optional fields when each member with the name of a field is null or fits the field. -/
theorem fits_options_iff {fields : List (String × Shape)} (h : (fields.map fun f => f.1.toList).Nodup) {j : Json} :
    fits (options fields) j = true ↔
      ∃ members, j = .object members ∧ ∀ m ∈ members, ∀ f ∈ fields, m.1 = f.1.toList → m.2 = .null ∨ fits f.2 m.2 = true := by
  rw [options, fits_record_iff]
  refine exists_congr fun members => and_congr_right fun _ => forall₂_congr fun m _ => ?_
  have hnames : ((fields.map fun f => (f.1.toList, Shape.optional f.2)).map Prod.fst).Nodup := by
    rwa [List.map_map]
  constructor
  · intro hfits f hf hname
    have hfield := field_eq hnames (List.mem_map_of_mem hf)
    rw [hname, hfield] at hfits
    exact fits_optional_iff.mp hfits
  · intro hfits
    by_cases hknown : ∃ f ∈ fields, m.1 = f.1.toList
    · obtain ⟨f, hf, hname⟩ := hknown
      have hfield := field_eq hnames (List.mem_map_of_mem hf)
      rw [hname, hfield]
      exact fits_optional_iff.mpr (hfits f hf hname)
    · have hnone : (fields.map fun f => (f.1.toList, Shape.optional f.2)).find? (fun f => f.1 = m.1) = none := by
        rw [List.find?_eq_none]
        intro g hg heq
        obtain ⟨f, hf, rfl⟩ := List.mem_map.mp hg
        exact hknown ⟨f, hf, (of_decide_eq_true heq).symm⟩
      rw [field, hnone]
      exact fits_any m.2

end TaintSummary.Shape
