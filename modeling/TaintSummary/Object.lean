import TaintSummary.Json.Shape
import TaintSummary.Resource

/-!
# Objects

An object of the cluster is a JSON object; its metadata may be missing, but not null, and has to have the shape of metadata.
Everything else is free.
-/

namespace TaintSummary

/-- An object of the cluster. -/
structure Object where
  ns : Text
  name : Text
  body : Json

namespace Object

/-- The resource that an object of the kind is. -/
def resource (kind : Text) (o : Object) : Resource := ⟨o.ns, o.name, kind⟩

/-- The shape of an object's metadata. -/
def metadataShape : Shape := .options [
  ("annotations", .map .text), ("creationTimestamp", .timestamp), ("deletionGracePeriodSeconds", .int64),
  ("deletionTimestamp", .timestamp), ("finalizers", .list .text), ("generateName", .text), ("generation", .int64),
  ("labels", .map .text),
  ("managedFields", .list (.options [("apiVersion", .text), ("fieldsType", .text), ("fieldsV1", .any),
    ("manager", .text), ("operation", .text), ("subresource", .text), ("time", .timestamp)])),
  ("name", .text), ("namespace", .text),
  ("ownerReferences", .list (.options [("apiVersion", .text), ("blockOwnerDeletion", .bool), ("controller", .bool),
    ("kind", .text), ("name", .text), ("uid", .text)])),
  ("resourceVersion", .text), ("selfLink", .text), ("uid", .text)]

/-- The shape of an object. -/
def shape : Shape := .openRecord [("metadata".toList, metadataShape)]

/-- The metadata of an object with the members: empty when there is none, `none` when it is written twice or does not have the
shape. -/
def metadata? (members : List (Text × Json)) : Option Json :=
  match Json.named "metadata".toList members with
  | [] => some (.object [])
  | [m] => if metadataShape.fits m then some m else none
  | _ => none

/-- The object that a value describes: a missing namespace or name is empty, and of a repeated member the last one counts. -/
def ofJson? : Json → Option Object
  | .object members => (metadata? members).map fun m =>
    ⟨Json.textOf "namespace".toList m, Json.textOf "name".toList m, Json.canonical (.object members)⟩
  | _ => none

end Object

end TaintSummary
