import TaintSummary.CommandLine.Scan
import TaintSummary.Settings

/-!
# Reading the command line

A command line is a command with its operands and options. The options that are not of a single command may also stand before
it; one that stands in both places has the value after the command.
-/

namespace TaintSummary.CommandLine

/-- The arguments found at the place after a command are complete and in accord. -/
def check (p : Place) (s : Scan) : Except Stop Unit :=
  if s.has .matching ∧ s.has .unmatched then .error (.usage .conflict)
  else if s.operands.length < p.operands.length then .error (.usage .missingArgument)
  else .ok ()

/-- The arguments before the command and after it, put together. -/
def combine (p : Place) (before after : Scan) : Arguments where
  command :=
    match p, after.operands with
    | .tolerations, [apiVersion, name] => .tolerations apiVersion name
    | _, _ => .taints
  selectors := ⟨after.value? .matching, after.value? .unmatched⟩
  ns := after.value? .ns
  kubeconfig := (after.value? .kubeconfig).or (before.value? .kubeconfig)
  context := (after.value? .context).or (before.value? .context)
  format := (((after.value? .output).or (before.value? .output)).bind Format.ofName?).getD .table
  noHeaders := after.has .noHeaders || before.has .noHeaders
  verbose := after.has .verbose || before.has .verbose

/-- The arguments of a command line, or why it asks for no run. -/
def parse (args : List Text) : Except Stop Arguments :=
  (Scan.main .empty args).bind fun (before, command) =>
    match command with
    | none => .error (.usage (if before.options.isEmpty then .missingEverything else .missingSubcommand))
    | some (p, rest) =>
      (Scan.all p .empty rest).bind fun after =>
        (check p after).bind fun () =>
          before.close.map fun before => combine p before after

end TaintSummary.CommandLine
