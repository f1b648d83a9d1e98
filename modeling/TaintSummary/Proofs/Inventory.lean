import Mathlib.Data.List.Dedup
import TaintSummary.Proofs.ListingOrder

/-!
# The inventory of a listing

An inventory has one entry for each resource of a listing, with the list of the last object that is this resource. There is one when
the list of every object can be read, the list of an object too that a later one would have replaced; otherwise the first object
whose list cannot be read is the error (`ofObjects_indexes`).
-/

namespace TaintSummary

namespace Json

/-- Of the members with a name the last one is looked up. -/
theorem member?_eq_getLast?_named (name : Text) (members : List (Text × Json)) :
    member? name members = (named name members).getLast? := by
  rw [named, List.getLast?_map, List.getLast?_filter, member?]

/-- A text among the metadata of a value; one that is missing or null is empty. -/
def metadataText (name : Text) (j : Json) : Text := ((follow? ["metadata".toList, name] j).bind string?).getD []

end Json

/-- An object is the resource that its metadata tell. -/
theorem Object.resource_of_ofJson? {j : Json} {o : Object} (kind : Text) (h : ofJson? j = some o) :
    o.resource kind = ⟨Json.metadataText "namespace".toList j, Json.metadataText "name".toList j, kind⟩ := by
  cases j with
  | object members =>
    obtain ⟨m, hm, rfl⟩ := Option.map_eq_some_iff.mp h
    have htext : ∀ name, Json.metadataText name (.object members) = Json.textOf name m := by
      intro name
      rw [Json.metadataText, Json.follow?, Json.get?, Json.member?_eq_getLast?_named]
      unfold metadata? at hm
      split at hm
      · next hnone =>
        cases hm
        rw [hnone]
        rfl
      · next member hsingle =>
        split at hm
        · cases hm
          rw [hsingle, Json.textOf]
          change ((Json.follow? [name] m).bind Json.string?).getD [] = _
          cases hget : Json.get? name m <;> simp [Json.follow?, hget]
        · cases hm
      · cases hm
    rw [htext, htext, resource]
  | _ => cases h

namespace Inventory

variable {α : Type} [Listed α] {kind : Text} {objects : List Object}

/-- The inventory has the resources of the objects, each with the list of the last object that is this resource. -/
structure HoldsLast (kind : Text) (objects : List Object) (inv : Inventory α) : Prop where
  /-- The resources are those of the objects, those with an empty list among them. -/
  keys : ∀ r, r ∈ inv.keys ↔ ∃ o ∈ objects, o.resource kind = r
  /-- Of the objects that are the same resource the last one counts. -/
  last : ∀ r items, inv.find? r = some items ↔
    ∃ (j : Nat) (o : Object), objects[j]? = some o ∧ o.resource kind = r ∧ Listed.extract o.body = .ok items ∧
      ∀ (i : Nat) (later : Object), j < i → objects[i]? = some later → later.resource kind ≠ r
  /-- There are as many entries as there are different resources. -/
  size : inv.entries.length = (objects.map (Object.resource kind)).dedup.length

theorem holdsLast_of_mapM {es : List (Resource × List α)} (hes : objects.mapM (readObject kind) = .ok es) :
    HoldsLast kind objects (SortedMap.ofList es) := by
  have hresources : es.map Prod.fst = objects.map (Object.resource kind) :=
    map_of_mapM (fun _ _ ho => (readObject_eq_ok_iff.mp ho).1.symm) hes
  have hkeys : ∀ r, r ∈ (SortedMap.ofList es).keys ↔ ∃ o ∈ objects, o.resource kind = r := by
    intro r
    rw [SortedMap.mem_keys_ofList_iff, hresources, List.mem_map]
  constructor
  case keys => exact hkeys
  case last =>
    intro r items
    -- the entries stand where the objects stand, each with the resource of its object
    have hother : ∀ i : Nat, (∀ e, es[i]? = some e → e.1 ≠ r) ↔
        ∀ later, objects[i]? = some later → later.resource kind ≠ r := by
      intro i
      have hat : (es.map Prod.fst)[i]? = (objects.map (Object.resource kind))[i]? := by rw [hresources]
      rw [List.getElem?_map, List.getElem?_map] at hat
      cases he : es[i]? <;> cases ho : objects[i]? <;> simp_all
    have hafter : ∀ j : Nat, (∀ i e, j < i → es[i]? = some e → e.1 ≠ r) ↔
        ∀ i later, j < i → objects[i]? = some later → later.resource kind ≠ r := by
      intro j
      constructor
      · exact fun h i later hlt hlater => (hother i).mp (fun e he => h i e hlt he) later hlater
      · exact fun h i e hlt he => (hother i).mpr (fun later hlater => h i later hlt hlater) e he
    rw [← SortedMap.mem_entries_iff, SortedMap.mem_ofList_iff]
    simp only [hafter]
    simp only [getElem?_of_mapM hes, readObject_eq_ok_iff]
    constructor
    · rintro ⟨j, ⟨o, ho, hr, hitems⟩, hlast⟩
      exact ⟨j, o, ho, hr, hitems, hlast⟩
    · rintro ⟨j, o, ho, hr, hitems, hlast⟩
      exact ⟨j, ⟨o, ho, hr, hitems⟩, hlast⟩
  case size =>
    have hperm : (SortedMap.ofList es).keys.Perm (objects.map (Object.resource kind)).dedup := by
      refine (List.perm_ext_iff_of_nodup (SortedMap.nodup_keys _) (List.nodup_dedup _)).mpr fun r => ?_
      rw [hkeys, List.mem_dedup, List.mem_map]
    simpa [SortedMap.keys] using hperm.length_eq

/-- What comes of indexing objects of a kind. -/
structure Indexes (α : Type) [Listed α] (kind : Text) (objects : List Object) : Prop where
  /-- There is an inventory exactly when the list of each object can be read. -/
  succeeds : (∃ inv : Inventory α, ofObjects kind objects = .ok inv) ↔
    ∀ o ∈ objects, ∃ items : List α, Listed.extract o.body = .ok items
  holds : ∀ inv : Inventory α, ofObjects kind objects = .ok inv → HoldsLast kind objects inv
  /-- Otherwise the first object whose list cannot be read is the error, whatever comes after it. -/
  fails : ∀ (before : List Object) (o : Object) (after : List Object) (cause : EntryError), objects = before ++ o :: after →
    (∀ b ∈ before, ∃ items : List α, Listed.extract b.body = .ok items) →
    (Listed.extract o.body : Except EntryError (List α)) = .error cause →
    ∃ u, (∀ rest, (ofObjects kind (before ++ o :: rest) : Except Unreadable (Inventory α)) = .error u) ∧
      u.messages = ("Failed to read ".toList ++ kind ++ " '".toList ++ o.name ++ "'".toList) :: cause.messages

/-- Objects of a kind have an inventory when all of their lists can be read, with the list of the last object for each resource;
otherwise the first list that cannot be read is the error. An object is the resource that its metadata tell. -/
theorem ofObjects_indexes (kind : Text) (objects : List Object) :
    Indexes α kind objects ∧ ∀ j o, Object.ofJson? j = some o →
      o.resource kind = ⟨Json.metadataText "namespace".toList j, Json.metadataText "name".toList j, kind⟩ := by
  refine ⟨?_, fun j o => Object.resource_of_ofJson? kind⟩
  constructor
  case succeeds => exact exists_ofObjects_iff
  case holds =>
    intro inv hinv
    obtain ⟨es, hes, rfl⟩ := ofObjects_eq_ok_iff.mp hinv
    exact holdsLast_of_mapM hes
  case fails =>
    intro before o after cause _ hbefore hcause
    exact ⟨⟨kind, o.name, cause⟩, fun rest => ofObjects_eq_error hbefore hcause, rfl⟩

/-- Of two nodes with one name the second, without taints, takes the place of the first; when the first one's taints cannot be read
that is the error nevertheless. Both are the resource that their metadata tell. -/
theorem ofObjects_indexes_same_resource :
    let node (taints : List Json) : Object :=
      ⟨[], "db".toList, .object [("spec".toList, .object [("taints".toList, .array taints)])]⟩
    let tainted := node [.object [("key".toList, .string "ssd".toList)]]
    let unreadable := node [.object [("effect".toList, .string "Never".toList)]]
    let named : Json := .object [("metadata".toList, .object [("name".toList, .string "db".toList)])]
    (∃ inv : Inventory Taint, ofObjects "Node".toList [tainted, node []] = .ok inv ∧
        inv.find? ⟨[], "db".toList, "Node".toList⟩ = some [] ∧ inv.entries.length = 1) ∧
      (∃ u : Unreadable, (ofObjects "Node".toList [unreadable, node []] : Except Unreadable (Inventory Taint)) = .error u ∧
        u.messages.head? = some "Failed to read Node 'db'".toList) ∧
      ∃ o, Object.ofJson? named = some o ∧ o.resource "Node".toList = ⟨[], "db".toList, "Node".toList⟩ := by
  intro node tainted unreadable named
  refine ⟨?_, ?_, _, rfl, (@ofObjects_indexes Taint _ "Node".toList []).2 named _ rfl⟩
  · obtain ⟨hindexes, -⟩ := @ofObjects_indexes Taint _ "Node".toList [tainted, node []]
    obtain ⟨inv, hinv⟩ := hindexes.succeeds.mpr (by simpa [tainted, node] using ⟨⟨_, rfl⟩, ⟨_, rfl⟩⟩)
    have hholds := hindexes.holds inv hinv
    refine ⟨inv, hinv, (hholds.last _ _).mpr ⟨1, node [], rfl, rfl, rfl, fun i later hi hlater => ?_⟩, hholds.size⟩
    rw [List.getElem?_eq_none hi] at hlater
    cases hlater
  · obtain ⟨hindexes, -⟩ := @ofObjects_indexes Taint _ "Node".toList [unreadable, node []]
    obtain ⟨u, hu, hmessages⟩ := hindexes.fails [] unreadable [node []] _ rfl (by simp) rfl
    exact ⟨u, hu [node []], by rw [hmessages]; rfl⟩

end Inventory

end TaintSummary
