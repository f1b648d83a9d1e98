import TaintSummary.Text.Quoted

/-!
# Connecting

A kubeconfig file names contexts and the clusters they lead to. A run connects through the context it is given, else through the
current one of the file; of the clusters only those that the file describes can be reached.
-/

namespace TaintSummary

/-- A kubeconfig file. -/
structure Kubeconfig where
  path : Text
  /-- The contexts with the names of their clusters. -/
  contexts : List (Text × Text)
  /-- The clusters that are described. -/
  clusters : List Text
  current : Text

/-- Why a context leads nowhere. -/
inductive ContextError
  | unknownContext (context : Text)
  | unknownCluster (cluster : Text)
  deriving DecidableEq

/-- The message of the error. -/
def ContextError.message : ContextError → Text
  | .unknownContext context => "failed to load current context: ".toList ++ context
  | .unknownCluster cluster => "failed to load the cluster of context: ".toList ++ cluster

/-- Why a run cannot connect. -/
inductive ConnectionError
  /-- There is no file at the path. -/
  | missingFile (path : Text)
  /-- A context of the file at the path leads nowhere. -/
  | inFile (path : Text) (e : ContextError)
  /-- The context of the usual file leads nowhere. -/
  | inContext (context : Text) (e : ContextError)
  deriving DecidableEq

/-- The messages of the error, the outermost first. -/
def ConnectionError.messages : ConnectionError → List Text
  | .missingFile path =>
    let cause : Text := "No such file or directory (os error 2)".toList
    ["Failed to read kubeconfig: ".toList ++ path,
      "failed to read kubeconfig from '".toList ++ Text.quoted path ++ "': ".toList ++ cause, cause]
  | .inFile path e => ["Failed to load kubeconfig: ".toList ++ path, e.message]
  | .inContext context e => ["Failed to load kubeconfig for context '".toList ++ context ++ "'".toList, e.message]

namespace Kubeconfig

/-- The context leads to a cluster. -/
def load (file : Kubeconfig) (context : Text) : Except ContextError Unit :=
  match file.contexts.find? fun c => c.1 = context with
  | none => .error (.unknownContext context)
  | some (_, cluster) => if cluster ∈ file.clusters then .ok () else .error (.unknownCluster cluster)

/-- A run with these options can connect, the file being the only one and the usual one. Without options it always can. -/
def connect (file : Kubeconfig) (path context : Option Text) : Except ConnectionError Unit :=
  match path, context with
  | some path, context =>
    if path = file.path then (file.load (context.getD file.current)).mapError (.inFile path)
    else .error (.missingFile path)
  | none, some context => (file.load context).mapError (.inContext context)
  | none, none => .ok ()

end Kubeconfig

end TaintSummary
