import TaintSummary.Json

/-!
# Paths in a value

A path of member names leads to an array, or it leads nowhere: it meets a value that has no such member, or ends in a value that is no
array. Both are said here without following the path, and following it tells which of them holds (`follow?_array_eq_some_iff`,
`follow?_array_eq_none_iff`). Of several members with one name the last is the one that counts.
-/

namespace TaintSummary.Json

/-- The value is what the object has under the name; of several members the last one counts. -/
def IsMember (name : Text) (j v : Json) : Prop :=
  ∃ before after, j = .object (before ++ (name, v) :: after) ∧ ∀ m ∈ after, m.1 ≠ name

/-- The path leads to an array with the items. -/
inductive LeadsTo : List Text → Json → List Json → Prop
  | array (items : List Json) : LeadsTo [] (.array items) items
  | member {name : Text} {path : List Text} {j v : Json} {items : List Json} (member : IsMember name j v)
      (further : LeadsTo path v items) : LeadsTo (name :: path) j items

/-- The path leads to no array: it meets a value that is no object or an object without the member, or it ends in another value. -/
inductive LeadsNowhere : List Text → Json → Prop
  | noArray {j : Json} (other : ∀ items, j ≠ .array items) : LeadsNowhere [] j
  | noObject {name : Text} {path : List Text} {j : Json} (other : ∀ members, j ≠ .object members) :
      LeadsNowhere (name :: path) j
  | noMember {name : Text} {path : List Text} {members : List (Text × Json)} (missing : ∀ m ∈ members, m.1 ≠ name) :
      LeadsNowhere (name :: path) (.object members)
  | member {name : Text} {path : List Text} {j v : Json} (member : IsMember name j v) (further : LeadsNowhere path v) :
      LeadsNowhere (name :: path) j

/-- What the value says under the name; it says nothing when it has no such member, or null there. -/
def Says (name : Text) (j : Json) (t : Text) : Prop :=
  get? name j = some (.string t) ∨ (t = [] ∧ (get? name j = none ∨ get? name j = some .null))

/-- A text, or null in its place. -/
def IsOptionalText (j : Json) : Prop := j = .null ∨ ∃ t, j = .string t

/-- Looking a name up gives the member that counts. -/
theorem get?_eq_some_iff {name : Text} {j v : Json} : get? name j = some v ↔ IsMember name j v := by
  cases j with
  | object members =>
    rw [get?, member?, Option.map_eq_some_iff]
    constructor
    · rintro ⟨⟨name', v'⟩, hfind, rfl⟩
      obtain ⟨hname, before, after, hmembers, hbefore⟩ := List.find?_eq_some_iff_append.mp hfind
      obtain rfl := of_decide_eq_true hname
      refine ⟨after.reverse, before.reverse, ?_, ?_⟩
      · rw [List.reverse_eq_iff.mp hmembers]
        simp
      · intro m hm
        simpa using hbefore m (List.mem_reverse.mp hm)
    · rintro ⟨before, after, heq, hafter⟩
      cases heq
      refine ⟨(name, v), List.find?_eq_some_iff_append.mpr ⟨by simp, after.reverse, before.reverse, by simp, ?_⟩, rfl⟩
      intro m hm
      simpa using hafter m (List.mem_reverse.mp hm)
  | _ =>
    refine iff_of_false nofun ?_
    rintro ⟨before, after, heq, -⟩
    cases heq

/-- Looking a name up gives nothing when no member has it. -/
theorem get?_eq_none_iff {name : Text} {members : List (Text × Json)} :
    get? name (.object members) = none ↔ ∀ m ∈ members, m.1 ≠ name := by
  simp [get?, member?, Prod.forall]

/-- What is found under a name is one of the members. -/
theorem mem_of_get? {name : Text} {members : List (Text × Json)} {v : Json} (h : get? name (.object members) = some v) :
    (name, v) ∈ members := by
  obtain ⟨before, after, heq, -⟩ := get?_eq_some_iff.mp h
  cases heq
  simp

/-- The items of the array at the end of the path. -/
theorem follow?_array_eq_some_iff {path : List Text} {j : Json} {items : List Json} :
    (follow? path j).bind array? = some items ↔ LeadsTo path j items := by
  induction path generalizing j with
  | nil =>
    constructor
    · intro h
      cases j with
      | array items' =>
        cases h
        exact .array items
      | _ => cases h
    · rintro ⟨⟩
      rfl
  | cons name path ih =>
    constructor
    · intro h
      cases hget : get? name j with
      | none => simp [follow?, hget] at h
      | some v =>
        rw [follow?, hget, Option.bind_some] at h
        exact .member (get?_eq_some_iff.mp hget) (ih.mp h)
    · rintro (_ | ⟨hmember, hfurther⟩)
      rw [follow?, get?_eq_some_iff.mpr hmember, Option.bind_some]
      exact ih.mpr hfurther

/-- There is no array at the end of the path exactly when the path leads nowhere. -/
theorem follow?_array_eq_none_iff {path : List Text} {j : Json} :
    (follow? path j).bind array? = none ↔ LeadsNowhere path j := by
  induction path generalizing j with
  | nil =>
    constructor
    · intro h
      refine .noArray fun items heq => ?_
      rw [heq] at h
      cases h
    · rintro (hother | _)
      cases j with
      | array items => exact absurd rfl (hother items)
      | _ => rfl
  | cons name path ih =>
    constructor
    · intro h
      cases hget : get? name j with
      | none =>
        cases j with
        | object members => exact .noMember (get?_eq_none_iff.mp hget)
        | _ => exact .noObject nofun
      | some v =>
        rw [follow?, hget, Option.bind_some] at h
        exact .member (get?_eq_some_iff.mp hget) (ih.mp h)
    · rintro (_ | hother | hmissing | ⟨hmember, hfurther⟩)
      · cases j with
        | object members => exact absurd rfl (hother members)
        | _ => rfl
      · rw [follow?, get?_eq_none_iff.mpr hmissing]
        rfl
      · rw [follow?, get?_eq_some_iff.mpr hmember, Option.bind_some]
        exact ih.mpr hfurther

/-- Where there is text, null or nothing, the text is what the value says. -/
theorem says_iff {name t : Text} {j : Json} (h : ∀ v, get? name j = some v → IsOptionalText v) :
    Says name j t ↔ textOf name j = t := by
  rw [Says, textOf]
  cases hget : get? name j with
  | none => simp [eq_comm]
  | some v =>
    rcases h v hget with rfl | ⟨u, rfl⟩
    · simp [string?, eq_comm]
    · simp [string?]

end TaintSummary.Json
