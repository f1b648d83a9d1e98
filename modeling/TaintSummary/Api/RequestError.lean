import TaintSummary.Api.Failure
import TaintSummary.Api.Target

/-!
# Failing requests

A request fails before it is sent, because the server says so, or because its answer cannot be understood.
-/

namespace TaintSummary.Api

/-- Why a request gives nothing. -/
inductive RequestError
  | target (e : TargetError)
  | failure (f : Failure)
  | undecodable

namespace RequestError

/-- The request may be made once more. -/
def isRetryable : RequestError → Bool
  | .failure f => f.isRetryable
  | _ => false

/-- The error of a listing in one line. -/
def text : RequestError → Text
  | .target e => "Failed to build request: failed to build request: ".toList ++ e.message
  | .failure f => f.text
  | .undecodable => "Error deserializing response".toList

/-- The error of a discovery and its causes. -/
def causes : RequestError → List Text
  | .target e => ["HttpError: ".toList ++ e.message, e.message]
  | .failure f => [f.text, f.summary]
  | .undecodable => ["Error deserializing response".toList]

end RequestError

/-- What a response holds, read by its shape and with `decode` unless the response tells of a failure. -/
def Response.read {α : Type} (shape : Shape) (decode : Json → Option α) (r : Response) : Except RequestError α :=
  if r.isFailure then .error (.failure (.ofResponse r))
  else match (shape.parse r.body).bind decode with
    | some a => .ok a
    | none => .error .undecodable

end TaintSummary.Api
