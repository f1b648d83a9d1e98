import TaintSummary.Cluster.Script
import TaintSummary.Program

/-!
# The command line program

The arguments are those of the command line. The cluster stands on the standard input, written down as JSON.
-/

namespace TaintSummary

/-- Everything up to the end of the input. -/
partial def readAll (input : IO.FS.Stream) (before : String) : IO String := do
  let line ← input.getLine
  if line.isEmpty then return before
  readAll input (before ++ line)

end TaintSummary

open TaintSummary in
/-- Runs the program and ends with its code. -/
def main (args : List String) : IO UInt32 := do
  let input ← readAll (← IO.getStdin) ""
  match Cluster.parse input.toList with
  | none =>
    IO.eprintln "The standard input describes no cluster."
    return 1
  | some cluster =>
    let outcome := Program.run cluster (args.map String.toList)
    IO.print (String.ofList outcome.stdout)
    IO.eprint (String.ofList (outcome.stderr.getD []))
    return outcome.exitCode.toUInt32
