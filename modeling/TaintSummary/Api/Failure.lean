import TaintSummary.Api.Response
import TaintSummary.Json.Shape
import TaintSummary.Text.Quoted

/-!
# Failures that a server reports

What a failing response tells. A body that describes the failure counts, its code even against the status of the response;
without one the failure is made up from the response.
-/

namespace TaintSummary.Api

/-- A failure as the server tells it. -/
structure Failure where
  status : Text
  message : Text
  reason : Text
  code : Nat
  deriving DecidableEq

namespace Failure

/-- The shape of a described failure, but for the kinds of its values. -/
def shape : Shape :=
  .record [("status".toList, .any), ("message".toList, .any), ("reason".toList, .any), ("code".toList, .any)]

/-- The one text among the values, the empty text when there is no value. -/
def optionalText? : List Json → Option Text
  | [] => some []
  | [j] => j.string?
  | _ => none

/-- A number that is a code. -/
def code? : Json → Option Nat
  | .integer n => if 0 ≤ n ∧ n < 65536 then some n.toNat else none
  | _ => none

/-- The failure that a value describes: an object with a status and a code, each part written once at most, or an array of
status, message, reason and code. -/
def ofJson? : Json → Option Failure
  | .object members =>
    match Json.named "status".toList members, Json.named "code".toList members with
    | [.string status], [code] => do
      let message ← optionalText? (Json.named "message".toList members)
      let reason ← optionalText? (Json.named "reason".toList members)
      let code ← code? code
      return ⟨status, message, reason, code⟩
    | _, _ => none
  | .array [.string status, .string message, .string reason, code] =>
    (code? code).map fun code => ⟨status, message, reason, code⟩
  | _ => none

/-- The failure of a response whose body describes none. -/
def ofStatus (r : Response) : Failure where
  status := statusText r.status
  message := Text.quoted r.body
  reason := "Failed to parse error data".toList
  code := r.status

/-- The failure that a failing response tells of. -/
def ofResponse (r : Response) : Failure := ((shape.parse r.body).bind ofJson?).getD (ofStatus r)

/-- The failure may pass: too many requests, or a server that is unavailable or late. -/
def isRetryable (f : Failure) : Bool := f.code = 429 || f.code = 503 || f.code = 504

/-- The failure in short. -/
def summary (f : Failure) : Text := f.message ++ ": ".toList ++ f.reason

/-- The failure with all its parts. -/
def text (f : Failure) : Text :=
  "ApiError: ".toList ++ f.summary ++ " (ErrorResponse \x7b status: ".toList ++ Text.quoted f.status ++
    ", message: ".toList ++ Text.quoted f.message ++ ", reason: ".toList ++ Text.quoted f.reason ++
    ", code: ".toList ++ Text.ofNat f.code ++ " \x7d)".toList

end Failure

end TaintSummary.Api
