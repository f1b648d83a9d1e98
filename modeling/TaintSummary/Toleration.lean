import TaintSummary.Taint
import TaintSummary.Unicode.WhiteSpace

/-!
# Tolerations

A toleration accepts taints: it pairs an operator with the taint it speaks of. Its specifier is `Operator(taint)`. A specifier
without the wrapper is read with the operator `equal`.
-/

namespace TaintSummary

/-- A workload's acceptance of a taint. -/
structure Toleration where
  operator : Operator
  taint : Taint
  deriving DecidableEq

namespace Toleration

/-- The specifier of the toleration. -/
def print (t : Toleration) : Text := t.operator.name ++ '(' :: t.taint.print ++ [')']

/-- What stands before the first `(`, and what stands between it and the first `)`; `none` when one of them is missing or
`)` comes first. -/
def unwrap? (text : Text) : Option (Text × Text) :=
  match Text.cut? '(' text with
  | none => none
  | some (outer, rest) =>
    if ')' ∈ outer then none else (Text.cut? ')' rest).map fun (inner, _) => (outer, inner)

/-- The operator that a wrapper names: `exists` in any case and with blanks around it, `equal` for every other word. -/
def operatorOf (outer : Text) : Operator :=
  if Text.eqIgnoringCase (Text.trim outer) Operator.exists.name then .exists else .equal

/-- The operator of a specifier and the specifier of its taint. -/
def split (text : Text) : Operator × Text :=
  match unwrap? text with
  | some (outer, inner) => (operatorOf outer, inner)
  | none => (.equal, text)

/-- The toleration of a specifier. -/
def parse (text : Text) : Except SpecifierError Toleration :=
  (Taint.parseBody (.malformed .toleration text) (split text).2).map (⟨(split text).1, ·⟩)

end Toleration

end TaintSummary
