import TaintSummary.Listed
import TaintSummary.Object
import TaintSummary.SortedMap

/-!
# Inventories

An inventory maps each resource to the list it carries. Of several objects that are the same resource the last one counts, and
every object is in the inventory, even with an empty list. An inventory has no order of its own: its entries stand in the order of
the resources so that there is one way to write it down, and what may be printed when they are visited in any other order is
`Summary.MayPrint`. A selection keeps the resources whose lists match a given thing, or those whose lists do not, as a scan of each
list tells: a list matches when the thing is in it, and fails to match when its last element is another one.
-/

namespace TaintSummary

/-- The lists of the resources. The order of the entries tells nothing. -/
abbrev Inventory (α : Type) := SortedMap Resource (List α)

/-- An object whose list cannot be read. -/
structure Unreadable where
  kind : Text
  name : Text
  cause : EntryError

namespace Inventory

variable {α : Type} [Listed α]

/-- The resource and the list of an object. -/
def readObject (kind : Text) (o : Object) : Except Unreadable (Resource × List α) :=
  match Listed.extract o.body with
  | .ok items => .ok (o.resource kind, items)
  | .error cause => .error ⟨kind, o.name, cause⟩

/-- The inventory of the objects, all of the one kind. -/
def ofObjects (kind : Text) (objects : List Object) : Except Unreadable (Inventory α) :=
  (objects.mapM (readObject kind)).map SortedMap.ofList

end Inventory

/-- Which resources are kept. -/
inductive Selection
  /-- Those with the thing in their list. -/
  | matching
  /-- Those whose list does not end with the thing. -/
  | unmatched
  deriving DecidableEq

namespace Selection

variable {α : Type} [DecidableEq α]

/-- Whether the last comparison made held, the elements of a list being compared with the thing one after the other, `hit` coming
before them. The scan for a match ends at the first element that is the thing. -/
def scan (s : Selection) (thing : α) (hit : Bool) : List α → Bool
  | [] => hit
  | item :: rest => if s = .matching ∧ item = thing then true else s.scan thing (item = thing) rest

/-- A resource with the list is kept: the scan has to end with a hit for a match, and without one otherwise. -/
def keeps (s : Selection) (thing : α) (items : List α) : Bool := s.scan thing false items = decide (s = .matching)

/-- The kept part of the inventory; the lists stay whole. -/
def apply (s : Selection) (thing : α) (inv : Inventory α) : Inventory α :=
  inv.filter fun _ items => s.keeps thing items

end Selection

end TaintSummary
