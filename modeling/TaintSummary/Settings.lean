import TaintSummary.Inventory
import TaintSummary.Report.Format

/-!
# Settings

What a run is to do. The settings are made from the arguments of a command line, where a selector or a namespace that is given but
empty counts as not given.
-/

namespace TaintSummary

/-- What is summarized: the taints of the nodes, or the tolerations of the objects of a resource type. -/
inductive Command
  | taints
  | tolerations (apiVersion name : Text)
  deriving DecidableEq

/-- The expression of each selector that is given. -/
structure Selectors where
  matching : Option Text
  unmatched : Option Text
  deriving DecidableEq

/-- What stands on a command line. -/
structure Arguments where
  command : Command
  selectors : Selectors
  ns : Option Text
  kubeconfig : Option Text
  context : Option Text
  format : Format
  noHeaders : Bool
  verbose : Bool
  deriving DecidableEq

/-- An expression and what is kept of the resources it is compared with. -/
structure Filter where
  expression : Text
  selection : Selection
  deriving DecidableEq

/-- Why there are no settings for some arguments. -/
inductive SettingsError
  | conflictingSelectors
  deriving DecidableEq

/-- The message of the error. -/
def SettingsError.message : SettingsError → Text
  | .conflictingSelectors => "--match and --no-match are mutually exclusive arguments".toList

/-- The text, unless it is missing or empty. -/
def nonempty? : Option Text → Option Text
  | some (c :: t) => some (c :: t)
  | _ => none

/-- The filter that the selectors ask for; at most one of them may be given. -/
def Filter.ofSelectors (s : Selectors) : Except SettingsError (Option Filter) :=
  match nonempty? s.matching, nonempty? s.unmatched with
  | some _, some _ => .error .conflictingSelectors
  | some e, none => .ok (some ⟨e, .matching⟩)
  | none, some e => .ok (some ⟨e, .unmatched⟩)
  | none, none => .ok none

/-- What a run is to do. -/
structure Settings where
  command : Command
  filter : Option Filter
  /-- Where tolerations are looked for; everywhere without one. -/
  ns : Option Text
  kubeconfig : Option Text
  context : Option Text
  format : Format
  noHeaders : Bool
  verbose : Bool
  deriving DecidableEq

namespace Settings

/-- The namespace that a command looks at. -/
def nsOf (command : Command) (ns : Option Text) : Option Text :=
  match command with
  | .taints => none
  | .tolerations .. => nonempty? ns

/-- The settings of the arguments. -/
def ofArguments (a : Arguments) : Except SettingsError Settings :=
  (Filter.ofSelectors a.selectors).map fun filter =>
    { command := a.command, filter, ns := nsOf a.command a.ns, kubeconfig := a.kubeconfig, context := a.context,
      format := a.format, noHeaders := a.noHeaders, verbose := a.verbose }

end Settings

end TaintSummary
