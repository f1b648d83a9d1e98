import TaintSummary.Text

/-!
# Resources

The identity of an object. Resources are ordered by namespace, then name, then kind.
-/

namespace TaintSummary

/-- The identity of an object; objects of the cluster as a whole have an empty namespace. -/
structure Resource where
  ns : Text
  name : Text
  kind : Text
  deriving DecidableEq

namespace Resource

/-- The parts by which resources are ordered, the most important first. -/
def parts (r : Resource) : List Text := [r.ns, r.name, r.kind]

instance : Ord Resource := ⟨compareOn parts⟩

instance : Std.TransOrd Resource := inferInstanceAs (Std.TransCmp (compareOn parts))

instance : Std.LawfulEqOrd Resource where
  eq_of_compare {a b} h := by
    have hp : a.parts = b.parts := Std.LawfulEqOrd.eq_of_compare h
    cases a
    cases b
    simp_all [parts]

end Resource

end TaintSummary
