import TaintSummary.Api.Discovery
import TaintSummary.Proofs.Api.Target
import TaintSummary.Proofs.Text.Pieces

/-!
# Paths to the objects of a resource type

The paths that a run asks for are made of names: of the API version on the command line, of the group that the server tells of,
of the resource type and of the namespace. Made of ordinary names they are sent as they are.
-/

namespace TaintSummary

/-- A group and its version are made of the characters of the text from which they are read. -/
theorem GroupVersion.mem_of_mem_parse {text : Text} {c : Char} (h : c ∈ (parse text).apiVersion) : c ∈ text := by
  unfold parse at h
  split at h
  · next version hp =>
    obtain ⟨rfl, -⟩ := Text.pieces_eq_singleton_iff.mp hp
    simpa [apiVersion] using h
  · next group version hp =>
    obtain ⟨rfl, -⟩ := Text.pieces_eq_pair_iff.mp hp
    unfold apiVersion at h
    split at h
    · next hg => simp_all
    · exact h
  · simp [apiVersion] at h

namespace Api

/-- The group of an answer is made of the characters of what the answer calls it. -/
theorem Discovery.Answer.mem_of_mem_group {a : Answer} {c : Char} (h : c ∈ a.group.apiVersion) : c ∈ a.groupVersion := by
  unfold Answer.group at h
  split at h
  · next group version hcut =>
    obtain ⟨heq, -⟩ := Text.cut?_eq_some_iff.mp hcut
    rw [heq]
    unfold GroupVersion.apiVersion at h
    split at h
    · next hg => simp_all
    · exact h
  · simpa [GroupVersion.apiVersion] using h

/-- The path of a type that a server tells of is made of ordinary characters, of those of the group and of the type's name, and of
those of the namespace. -/
theorem Discovery.Answer.isOrdinary_path {a : Answer} {name : Text} {t : ServedType} (h : a.served? name = some t)
    {ns : Option Text} (hchars : ∀ c ∈ a.groupVersion ++ t.plural ++ ns.getD [], Target.IsOrdinary c) :
    ∀ c ∈ t.path ns, Target.IsOrdinary c := by
  obtain ⟨e, -, rfl⟩ := Option.map_eq_some_iff.mp h
  have hlit : ∀ c ∈ "/api/".toList ++ "/apis/".toList ++ "namespaces/".toList, Target.IsOrdinary c :=
    Target.isOrdinary_of_all (by decide)
  have hbase : ∀ c ∈ a.base e, Target.IsOrdinary c := by
    intro c hc
    unfold Answer.base at hc
    simp only [List.mem_append, List.mem_singleton] at hc hlit
    rcases hc with (hc | hc) | rfl
    · split at hc
      · exact hlit c (Or.inl (Or.inl hc))
      · exact hlit c (Or.inl (Or.inr hc))
    · exact hchars c (by simp [mem_of_mem_group hc])
    · decide
  intro c hc
  unfold ServedType.path at hc
  simp only [List.mem_append] at hlit hchars
  split at hc
  · simp only [List.mem_append, List.mem_cons] at hc
    rcases hc with ((hc | hc) | hc) | rfl | hc
    · exact hbase c hc
    · exact hlit c (Or.inr hc)
    · exact hchars c (Or.inr hc)
    · decide
    · exact hchars c (Or.inl (Or.inr hc))
  · rcases List.mem_append.mp hc with hc | hc
    · exact hbase c hc
    · exact hchars c (Or.inl (Or.inr hc))

/-- Where a server tells of the types of a group is a path. -/
theorem Discovery.isPathChar_target {apiVersion : Text} (hchars : ∀ c ∈ apiVersion, Target.IsOrdinary c) :
    ∀ c ∈ target (.parse apiVersion), Target.isPathChar c = true := by
  have hlit : ∀ c ∈ "/api/".toList ++ "/apis/".toList, Target.isPathChar c = true := List.all_eq_true.mp (by decide)
  intro c hc
  unfold target at hc
  simp only [List.mem_append] at hc hlit
  rcases hc with hc | hc
  · split at hc
    · exact hlit c (Or.inl hc)
    · exact hlit c (Or.inr hc)
  · exact Target.isPathChar_of_isOrdinary (hchars c (GroupVersion.mem_of_mem_parse hc))

/-- The path is sent as it is, if it is not too long. -/
theorem Discovery.parse_target {apiVersion : Text} (hchars : ∀ c ∈ apiVersion, Target.IsOrdinary c) :
    Target.parse (target (.parse apiVersion)) =
      if Target.Fits (target (.parse apiVersion)) then .ok (target (.parse apiVersion)) else .error .tooLong :=
  Target.parse_eq_of_sent? (Target.sent?_path (isPathChar_target hchars))

/-- A resource type is resolved with one request, by the first answer; there is none when the request would be too long. -/
theorem Discovery.resolve_eq {apiVersion : Text} (hversion : (GroupVersion.parse apiVersion).version ≠ [])
    (hchars : ∀ c ∈ apiVersion, Target.IsOrdinary c) (name : Text) (script : List Response) :
    resolve (.parse apiVersion name) script =
      if Target.Fits (target (.parse apiVersion)) then
        ⟨[target (.parse apiVersion)], 0, (answer (.parse apiVersion name) (script.headD .exhausted)).map (·, script.tail)⟩
      else .pure (.error (.failed (.parse apiVersion) (.target .tooLong))) := by
  have hask : ¬(ResourceType.parse apiVersion name).groupVersion.version = [] := hversion
  rw [resolve, if_neg hask, Exchange.ask]
  simp only [ResourceType.parse, parse_target hchars]
  by_cases hfits : Target.Fits (target (.parse apiVersion))
  · simp only [if_pos hfits]
    rfl
  · simp only [if_neg hfits]

end Api

end TaintSummary
