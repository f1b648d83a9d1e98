import TaintSummary.Cluster
import TaintSummary.CommandLine.Help
import TaintSummary.CommandLine.Parse

/-!
# The program

What a call of the program prints and how it ends: the code is 0 after a report, help or the version, 1 after a run that failed
and 2 after a command line that cannot be understood.
-/

namespace TaintSummary.Program

/-- The settings of a command line. -/
def settings (args : List Text) : Except CommandLine.Stop (Except RunError Settings) :=
  (CommandLine.parse args).map fun a => (Settings.ofArguments a).mapError .settings

/-- How a call ends. -/
structure Outcome where
  exitCode : Nat
  stdout : Text
  /-- The report of a failed run. -/
  stderr : Option Text
  requests : List Text
  deriving DecidableEq

/-- The code of a call that asks for no run. -/
def stopCode : CommandLine.Stop → Nat
  | .help _ => 0
  | .version => 0
  | .usage _ => 2

/-- What is printed by a call that asks for no run. -/
def stopText : CommandLine.Stop → Text
  | .help topic => CommandLine.helpText topic
  | .version => CommandLine.versionText
  | .usage _ => []

/-- How a run ends. -/
def outcome (x : Api.Exchange RunError Text) : Outcome :=
  match x.result with
  | .ok text => ⟨0, text, none, x.requestLines⟩
  | .error e => ⟨1, [], some e.report, x.requestLines⟩

/-- How a call with the arguments ends. -/
def run (c : Cluster) (args : List Text) : Outcome :=
  match settings args with
  | .error stop => ⟨stopCode stop, stopText stop, none, []⟩
  | .ok (.error e) => outcome (.pure (.error e))
  | .ok (.ok s) => outcome (c.run s)

end TaintSummary.Program
