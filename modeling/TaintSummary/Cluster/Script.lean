import TaintSummary.Cluster
import TaintSummary.Json.Printer

/-!
# Clusters written down

A cluster as a JSON text describes it: the answers of its server in the order in which they are given, and the kubeconfig file, if
there is one. An answer has a body, a text or any other value, and a status, which is 200 when it is left out.
-/

namespace TaintSummary

/-- The status that an answer states. -/
def Api.Response.status? (j : Json) : Option Nat :=
  match Json.get? "status".toList j with
  | none => some 200
  | some (.integer n) => if 0 ≤ n then some n.toNat else none
  | some _ => none

/-- The answer that a value describes. -/
def Api.Response.ofJson? (j : Json) : Option Api.Response := do
  let status ← Api.Response.status? j
  match ← Json.get? "body".toList j with
  | .string body => return ⟨status, body⟩
  | body => return ⟨status, Json.compact body⟩

namespace Kubeconfig

/-- The name and the cluster of a context. -/
def context? (j : Json) : Option (Text × Text) := do
  let name ← (← Json.get? "name".toList j).string?
  let cluster ← (← Json.get? "cluster".toList j).string?
  return (name, cluster)

/-- The file that a value describes. -/
def ofJson? (j : Json) : Option Kubeconfig := do
  let path ← (← Json.get? "path".toList j).string?
  let contexts ← (← (← Json.get? "contexts".toList j).array?).mapM context?
  let clusters ← (← (← Json.get? "clusters".toList j).array?).mapM Json.string?
  let current ← (← Json.get? "current".toList j).string?
  return ⟨path, contexts, clusters, current⟩

end Kubeconfig

namespace Cluster

/-- The cluster that a value describes. -/
def ofJson? (j : Json) : Option Cluster := do
  let kubeconfig ← match Json.get? "kubeconfig".toList j with
    | none => pure none
    | some file => (Kubeconfig.ofJson? file).map some
  let script ← (← (← Json.get? "responses".toList j).array?).mapM Api.Response.ofJson?
  return ⟨kubeconfig, script⟩

/-- The cluster that a text describes. -/
def parse (t : Text) : Option Cluster := (Json.parse t).bind ofJson?

end Cluster

end TaintSummary
