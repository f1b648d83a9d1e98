import TaintSummary.Proofs.Api.Discovery
import TaintSummary.Proofs.GroupVersion
import TaintSummary.Settings

/-!
# Which entry a name means

Two entries of an answer count for a name: the one that it means, which is the first that suits it (`Answer.Means`), and the first
one with the name of that entry, which tells whether the objects are in namespaces. The path of the objects is made from these two
(`Answer.listedAt_path`).
-/

namespace TaintSummary.Api.Discovery

/-- The first of the elements that have the property. -/
def IsFirst {α : Type} (p : α → Prop) (as : List α) (a : α) : Prop :=
  ∃ before after, as = before ++ a :: after ∧ p a ∧ ∀ b ∈ before, ¬p b

theorem find?_eq_some_iff_isFirst {α : Type} {p : α → Bool} {as : List α} {a : α} :
    as.find? p = some a ↔ IsFirst (fun x => p x = true) as a := by
  rw [List.find?_eq_some_iff_append]
  constructor
  · rintro ⟨hp, before, after, rfl, hbefore⟩
    exact ⟨before, after, rfl, hp, fun b hb => by simpa using hbefore b hb⟩
  · rintro ⟨before, after, rfl, hp, hbefore⟩
    exact ⟨hp, before, after, rfl, fun b hb => by simpa using hbefore b hb⟩

/-- The entry suits the name: it is no part of another one, and the name is its own name or, in some case, its kind. -/
structure Entry.Suits (e : Entry) (name : Text) : Prop where
  whole : '/' ∉ e.name
  called : e.name = name ∨ e.kind.map Char.toLower = name.map Char.toLower

theorem Entry.isMeantBy_iff {e : Entry} {name : Text} : e.isMeantBy name = true ↔ e.Suits name := by
  simp only [isMeantBy, Text.eqIgnoringCase, Bool.and_eq_true, Bool.or_eq_true, decide_eq_true_eq]
  exact ⟨fun h => ⟨h.1, h.2⟩, fun h => ⟨h.whole, h.called⟩⟩

/-- The part of a path for the namespace that is given; an empty one counts as none. -/
def namespacePart (given : Option Text) : Text :=
  match nonempty? given with
  | some ns => "namespaces/".toList ++ ns ++ ['/']
  | none => []

namespace Answer

variable {a : Answer} {name : Text} {e : Entry}

/-- The entry that the name means: the first one that suits it. -/
def Means (a : Answer) (name : Text) (e : Entry) : Prop := IsFirst (Entry.Suits · name) a.entries e

/-- Where the objects of an entry are listed: under what the answer calls its group, by the group of the entry, and in the namespace
that is given when the first entry with the name is namespaced. -/
def ListedAt (a : Answer) (given : Option Text) (e : Entry) (path : Text) : Prop :=
  ∃ named, IsFirst (·.name = e.name) a.entries named ∧
    path = (if e.group.getD a.group.group = [] then "/api/".toList else "/apis/".toList) ++ a.groupVersion.withoutSlash ++
      ['/'] ++ (if named.namespaced then namespacePart given else []) ++ e.name

theorem find?_isMeantBy_eq_some_iff : a.entries.find? (Entry.isMeantBy name) = some e ↔ a.Means name e := by
  rw [find?_eq_some_iff_isFirst]
  simp only [Entry.isMeantBy_iff, Means]

/-- The resource type is the one of the entry that the name means, and it is namespaced as the first entry with its name is. -/
theorem served?_eq_of_means (h : a.Means name e) :
    a.served? name = some ⟨a.base e, e.name, e.kind, a.isNamespaced e.name⟩ := by
  rw [served?, find?_isMeantBy_eq_some_iff.mpr h]
  rfl

/-- There is no resource type when no entry suits the name. -/
theorem served?_eq_none (h : ∀ e ∈ a.entries, ¬e.Suits name) : a.served? name = none := by
  rw [served?, Option.map_eq_none_iff, List.find?_eq_none]
  exact fun e he hmeant => h e he (Entry.isMeantBy_iff.mp hmeant)

/-- The first entry with the name tells whether the name is namespaced. -/
theorem isNamespaced_eq {named : Entry} {plural : Text} (h : IsFirst (·.name = plural) a.entries named) :
    a.isNamespaced plural = named.namespaced := by
  have hfind : (a.entries.find? fun x => x.name = plural) = some named :=
    find?_eq_some_iff_isFirst.mpr (by simpa using h)
  rw [isNamespaced, hfind]

/-- Some entry is the first with the name of a meant one. -/
theorem Means.exists_named (h : a.Means name e) : ∃ named, IsFirst (·.name = e.name) a.entries named := by
  obtain ⟨before, after, hentries, -, -⟩ := h
  obtain ⟨named, hnamed⟩ : ∃ named, (a.entries.find? fun x => x.name = e.name) = some named := by
    rw [← Option.isSome_iff_exists, List.find?_isSome]
    exact ⟨e, by simp [hentries], by simp⟩
  exact ⟨named, by simpa using find?_eq_some_iff_isFirst.mp hnamed⟩

/-- An answer's group is shown as the answer calls it, less a slash at its start. -/
theorem apiVersion_group (a : Answer) : a.group.apiVersion = a.groupVersion.withoutSlash := by
  unfold group
  split
  · next group version hcut =>
    obtain ⟨heq, hgroup⟩ := Text.cut?_eq_some_iff.mp hcut
    rw [heq, GroupVersion.apiVersion_eq_withoutSlash hgroup]
  · next hnone =>
    have hslash : '/' ∉ a.groupVersion := Text.cut?_eq_none_iff.mp hnone
    rw [Text.withoutSlash_of_head? fun heq => hslash (List.mem_of_head? heq)]
    rfl

/-- The path of the meant entry's objects. -/
theorem listedAt_path {named : Entry} (given : Option Text) (h : IsFirst (·.name = e.name) a.entries named) :
    a.ListedAt given e (ServedType.path ⟨a.base e, e.name, e.kind, a.isNamespaced e.name⟩ (nonempty? given)) := by
  refine ⟨named, h, ?_⟩
  rw [isNamespaced_eq h, ← apiVersion_group, namespacePart]
  cases named.namespaced <;> cases nonempty? given <;>
    simp only [ServedType.path, base, List.append_assoc, List.cons_append, List.nil_append, Bool.false_eq_true, if_true, if_false]

end Answer

/-- There is no asking for a version with as many characters as a target may have. -/
theorem not_fits_target {version : Text} (hslash : '/' ∉ version) (hlength : Target.sizeLimit ≤ version.length) :
    ¬Target.Fits (target (.parse version)) := by
  have htarget : target (.parse version) = "/api/".toList ++ version := by
    rw [GroupVersion.parse_of_not_mem hslash]
    rfl
  have hlit : 0 < "/api/".toList.length := by decide
  apply Target.not_fits_of_length
  rw [htarget, List.length_append]
  omega

end TaintSummary.Api.Discovery
