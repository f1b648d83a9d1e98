import TaintSummary.Summary

/-!
# Summaries of a cluster

The objects that a cluster lists, summarized. The filter's expression is read before the run connects, and nothing is printed
unless every page was received and every object read.
-/

namespace TaintSummary

/-- A cluster: the answers its server will give, and the kubeconfig that has to lead to it, where there is one. -/
structure Cluster where
  kubeconfig : Option Kubeconfig
  script : List Api.Response

namespace Cluster

/-- The run can connect. -/
def connect (c : Cluster) (s : Settings) : Except ConnectionError Unit :=
  match c.kubeconfig with
  | some file => file.connect s.kubeconfig s.context
  | none => .ok ()

/-- The kind and the objects of a resource type. -/
def list (t : Api.ServedType) (ns : Option Text) (script : List Api.Response) :
    Api.Exchange RunError (Text × List Object) :=
  (Api.Listing.fetch ⟨t.path ns, t.plural⟩ script).mapResult fun r => (r.mapError .listing).map (t.kind, ·)

/-- The kind and the objects that the command speaks of. -/
def objects (s : Settings) (script : List Api.Response) : Api.Exchange RunError (Text × List Object) :=
  match s.command with
  | .taints => list .node none script
  | .tolerations apiVersion name =>
    ((Api.Discovery.resolve (.parse apiVersion name) script).mapResult (·.mapError .discovery)).andThen
      fun (t, rest) => list t s.ns rest

/-- The summary with the filter's expression read for one of the two commands. -/
def runFor (α : Type) [Listed α] [DecidableEq α] (c : Cluster) (s : Settings) : Api.Exchange RunError Text :=
  match Summary.criterion α s.filter with
  | .error e => .pure (.error e)
  | .ok criterion =>
    match c.connect s with
    | .error e => .pure (.error (.connection e))
    | .ok () =>
      (objects s c.script).mapResult fun r => r.bind fun (kind, objects) => Summary.ofObjects s criterion kind objects

/-- The summary that the settings ask for. -/
def run (c : Cluster) (s : Settings) : Api.Exchange RunError Text :=
  match s.command with
  | .taints => runFor Taint c s
  | .tolerations .. => runFor Toleration c s

end Cluster

end TaintSummary
