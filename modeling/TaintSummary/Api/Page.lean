import TaintSummary.Api.RequestError
import TaintSummary.Object

/-!
# Pages

A server sends the objects of a listing in pages. A page has a token for the page after it, or none when it is the last one.
-/

namespace TaintSummary.Api

/-- A part of a listing. -/
structure Page where
  objects : List Object
  /-- What the next page is asked for with; empty on the last page. -/
  token : Text

namespace Page

/-- The shape of a page's metadata. -/
def metadataShape : Shape := .options [
  ("continue", .text), ("remainingItemCount", .int64), ("resourceVersion", .text), ("selfLink", .text)]

/-- The shape of a page. -/
def shape : Shape :=
  .openRecord [("metadata".toList, metadataShape), ("items".toList, .optional (.list Object.shape))]

/-- The token among the metadata: empty when there is no metadata, `none` when it is written twice or does not have the shape. -/
def token? (members : List (Text × Json)) : Option Text :=
  match Json.named "metadata".toList members with
  | [] => some []
  | [m] => if metadataShape.fits m then some (Json.textOf "continue".toList m) else none
  | _ => none

/-- The objects of a page: none for null. -/
def objects? (members : List (Text × Json)) : Option (List Object) :=
  match Json.named "items".toList members with
  | [.null] => some []
  | [.array items] => items.mapM Object.ofJson?
  | _ => none

/-- The page that a value describes. -/
def ofJson? : Json → Option Page
  | .object members => do
    let token ← token? members
    let objects ← objects? members
    return ⟨objects, token⟩
  | _ => none

end Page

end TaintSummary.Api
