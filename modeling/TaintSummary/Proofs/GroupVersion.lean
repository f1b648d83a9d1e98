import TaintSummary.GroupVersion
import TaintSummary.Proofs.Text.Pieces

/-!
# API versions without a version

An API version is cut at its slashes, and what it names depends on how many there are. So it names no version when it is empty or
ends with a slash, and when it has more than one slash (`version_parse_eq_nil_iff`). Any other API version is shown as it is, but
for a slash at its start (`apiVersion_parse`). What is shown of a resource type names the type again (`resource_type_canonical`).
-/

namespace TaintSummary

/-- The text less a slash at its start. -/
def Text.withoutSlash : Text → Text
  | '/' :: rest => rest
  | t => t

theorem Text.withoutSlash_of_head? {t : Text} (h : t.head? ≠ some '/') : t.withoutSlash = t := by
  unfold withoutSlash
  split
  · exact absurd rfl h
  · rfl

theorem Text.withoutSlash_eq_iff {t : Text} : t.withoutSlash = t ↔ t.head? ≠ some '/' := by
  refine ⟨fun h hhead => ?_, withoutSlash_of_head?⟩
  obtain ⟨rest, rfl⟩ := List.head?_eq_some_iff.mp hhead
  have hlength : rest.length = rest.length + 1 := congrArg List.length h
  omega

namespace GroupVersion

/-- An API version without a slash is a version, one with a slash names a group too, and any other names nothing. -/
theorem parse_cases (t : Text) :
    ('/' ∉ t ∧ parse t = ⟨[], t⟩) ∨
      (∃ group version, t = group ++ '/' :: version ∧ '/' ∉ group ∧ '/' ∉ version ∧ parse t = ⟨group, version⟩) ∨
        (2 ≤ t.count '/' ∧ parse t = ⟨[], []⟩) := by
  have hlength := Text.length_pieces '/' t
  unfold parse
  split
  · next version hpieces =>
    obtain ⟨rfl, hnone⟩ := Text.pieces_eq_singleton_iff.mp hpieces
    exact Or.inl ⟨hnone, rfl⟩
  · next group version hpieces =>
    obtain ⟨ht, hgroup, hversion⟩ := Text.pieces_eq_pair_iff.mp hpieces
    exact Or.inr (Or.inl ⟨group, version, ht, hgroup, hversion, rfl⟩)
  · next hone htwo =>
    refine Or.inr (Or.inr ⟨?_, rfl⟩)
    rcases hpieces : Text.pieces '/' t with _ | ⟨a, _ | ⟨b, _ | ⟨c, more⟩⟩⟩
    · exact absurd hpieces (Text.pieces_ne_nil '/' t)
    · exact absurd hpieces (hone a)
    · exact absurd hpieces (htwo a b)
    · rw [hpieces, List.length_cons, List.length_cons, List.length_cons] at hlength
      omega

/-- An API version without a slash is a version. -/
theorem parse_of_not_mem {t : Text} (h : '/' ∉ t) : parse t = ⟨[], t⟩ := by
  rw [parse, Text.pieces_of_not_mem h]

/-- No slash is left in what an API version names. -/
theorem not_mem_parse (t : Text) : '/' ∉ (parse t).group ∧ '/' ∉ (parse t).version := by
  rcases parse_cases t with ⟨hnone, hparse⟩ | ⟨group, version, -, hgroup, hversion, hparse⟩ | ⟨-, hparse⟩
  · rw [hparse]
    exact ⟨List.not_mem_nil, hnone⟩
  · rw [hparse]
    exact ⟨hgroup, hversion⟩
  · rw [hparse]
    exact ⟨List.not_mem_nil, List.not_mem_nil⟩

/-- A group and a version without slashes are named by what is shown of them. -/
theorem parse_apiVersion {g : GroupVersion} (hgroup : '/' ∉ g.group) (hversion : '/' ∉ g.version) : parse g.apiVersion = g := by
  obtain ⟨group, version⟩ := g
  unfold apiVersion
  split
  · next hempty =>
    subst hempty
    exact parse_of_not_mem hversion
  · rw [parse, Text.pieces_eq_pair_iff.mpr ⟨rfl, hgroup, hversion⟩]

theorem count_slash {group version : Text} (hgroup : '/' ∉ group) (hversion : '/' ∉ version) :
    (group ++ '/' :: version).count '/' = 1 := by
  rw [List.count_append, List.count_cons_self, List.count_eq_zero.mpr hgroup, List.count_eq_zero.mpr hversion]

/-- An API version that names no version is empty, ends with a slash or has more than one slash. -/
theorem version_parse_eq_nil_iff {t : Text} :
    (parse t).version = [] ↔ t = [] ∨ t.getLast? = some '/' ∨ 2 ≤ t.count '/' := by
  rcases parse_cases t with ⟨hnone, hparse⟩ | ⟨group, version, rfl, hgroup, hversion, hparse⟩ | ⟨hcount, hparse⟩
  · have hlast : t.getLast? ≠ some '/' := fun h => hnone (List.mem_of_getLast? h)
    rw [hparse, List.count_eq_zero.mpr hnone]
    simp [hlast]
  · have hlast : (group ++ '/' :: version).getLast? = some '/' ↔ version = [] := by
      cases version with
      | nil => simp
      | cons c rest =>
        have hne : (c :: rest).getLast? ≠ some '/' := fun h => hversion (List.mem_of_getLast? h)
        simpa [List.getLast?_append, List.getLast?_cons] using hne
    rw [hparse, count_slash hgroup hversion, hlast]
    simp
  · rw [hparse]
    simp [hcount]

/-- A version is shown after its group, and alone when the group is empty. -/
theorem apiVersion_eq_withoutSlash {group : Text} (h : '/' ∉ group) (version : Text) :
    apiVersion ⟨group, version⟩ = Text.withoutSlash (group ++ '/' :: version) := by
  cases group with
  | nil => rfl
  | cons c group =>
    have hhead : (c :: group ++ '/' :: version).head? ≠ some '/' := fun heq => h (List.mem_of_head? (l := c :: group) heq)
    rw [Text.withoutSlash_of_head? hhead]
    rfl

/-- An API version with a version is shown as it is, less a slash at its start. -/
theorem apiVersion_parse {t : Text} (h : (parse t).version ≠ []) : (parse t).apiVersion = t.withoutSlash := by
  rcases parse_cases t with ⟨hnone, hparse⟩ | ⟨group, version, rfl, hgroup, -, hparse⟩ | ⟨-, hparse⟩
  · rw [hparse, Text.withoutSlash_of_head? fun heq => hnone (List.mem_of_head? heq)]
    rfl
  · rw [hparse, apiVersion_eq_withoutSlash hgroup]
  · rw [hparse] at h
    exact absurd rfl h

/-- An API version is shown as it is when it has one slash at most, and none at its start. -/
theorem apiVersion_parse_eq_iff {t : Text} : (parse t).apiVersion = t ↔ t.count '/' ≤ 1 ∧ t.head? ≠ some '/' := by
  rcases parse_cases t with ⟨hnone, hparse⟩ | ⟨group, version, rfl, hgroup, hversion, hparse⟩ | ⟨hcount, hparse⟩
  · have hhead : t.head? ≠ some '/' := fun h => hnone (List.mem_of_head? h)
    have hshown : apiVersion ⟨[], t⟩ = t := rfl
    rw [hparse, List.count_eq_zero.mpr hnone]
    simp [hshown, hhead]
  · rw [hparse, apiVersion_eq_withoutSlash hgroup, Text.withoutSlash_eq_iff, count_slash hgroup hversion]
    simp
  · have hempty : [] ≠ t := by
      rintro rfl
      exact absurd hcount (by decide)
    have hshown : apiVersion ⟨[], []⟩ = [] := rfl
    rw [hparse, hshown]
    exact ⟨fun h => absurd h hempty, fun h => by omega⟩

end GroupVersion

/-- What is shown of the API version of a resource type names the type again. It is what the type was asked for with, unless that has
a slash at its start or more than one; there is no version when it is empty, ends with a slash or has more than one. -/
theorem resource_type_canonical (apiVersion name : Text) :
    let t := ResourceType.parse apiVersion name
    ResourceType.parse t.groupVersion.apiVersion t.name = t ∧
      (t.groupVersion.apiVersion = apiVersion ↔ apiVersion.count '/' ≤ 1 ∧ apiVersion.head? ≠ some '/') ∧
      (t.groupVersion.version = [] ↔ apiVersion = [] ∨ apiVersion.getLast? = some '/' ∨ 2 ≤ apiVersion.count '/') ∧
      '/' ∉ t.groupVersion.group ∧ '/' ∉ t.groupVersion.version := by
  intro t
  have hslash : '/' ∉ t.groupVersion.group ∧ '/' ∉ t.groupVersion.version := GroupVersion.not_mem_parse apiVersion
  have hagain : GroupVersion.parse t.groupVersion.apiVersion = t.groupVersion :=
    GroupVersion.parse_apiVersion hslash.1 hslash.2
  refine ⟨?_, GroupVersion.apiVersion_parse_eq_iff, GroupVersion.version_parse_eq_nil_iff, hslash⟩
  rw [ResourceType.parse, hagain]

/-- A slash at the start is not shown again, while one at the end is. -/
example : (GroupVersion.parse "/v1".toList).apiVersion = "v1".toList ∧
    (GroupVersion.parse "apps/".toList).apiVersion = "apps/".toList := by
  decide

end TaintSummary
