import TaintSummary.RunError

/-!
# Summaries

From objects to the text of a report: the inventory of the objects, the part of it that the filter keeps, the report of that part
in the format asked for. The expression of the filter is read before anything else.
-/

namespace TaintSummary.Summary

/-- What resources are compared with, and which are kept. -/
abbrev Criterion (α : Type) := Option (α × Selection)

variable {α : Type} [Listed α]

/-- The criterion of a filter. -/
def criterion (α : Type) [Listed α] : Option Filter → Except RunError (Criterion α)
  | none => .ok none
  | some f => ((Listed.parse f.expression).map fun thing : α => some (thing, f.selection)).mapError (.expression f.expression)

/-- The kept part of an inventory. -/
def keep [DecidableEq α] (c : Criterion α) (inv : Inventory α) : Inventory α :=
  match c with
  | some (thing, selection) => selection.apply thing inv
  | none => inv

/-- The report of an inventory as it is printed. -/
def print (s : Settings) (inv : Inventory α) : Text := (Report.ofInventory inv).render s.format (!s.noHeaders) ++ ['\n']

/-- The summary of objects of a kind. -/
def ofObjects [DecidableEq α] (s : Settings) (c : Criterion α) (kind : Text) (objects : List Object) :
    Except RunError Text :=
  ((Inventory.ofObjects kind objects).mapError .unreadable).map fun inv => print s (keep c inv)

/-- The summary of objects of a kind, the filter's expression read first. -/
def ofFilter (α : Type) [Listed α] [DecidableEq α] (s : Settings) (kind : Text) (objects : List Object) :
    Except RunError Text :=
  (criterion α s.filter).bind fun c => ofObjects s c kind objects

/-- The summary that the settings ask for. -/
def run (s : Settings) (kind : Text) (objects : List Object) : Except RunError Text :=
  match s.command with
  | .taints => ofFilter Taint s kind objects
  | .tolerations .. => ofFilter Toleration s kind objects

end TaintSummary.Summary
