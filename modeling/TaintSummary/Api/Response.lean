import TaintSummary.Text

/-!
# Responses

What a server answers. A status from 400 to 599 tells of a failure; any other status comes with what was asked for.
-/

namespace TaintSummary.Api

/-- An answer of a server. -/
structure Response where
  status : Nat
  body : Text
  deriving DecidableEq

namespace Response

/-- The answer tells of a failure. -/
def isFailure (r : Response) : Bool := 400 ≤ r.status && r.status ≤ 599

/-- The answer of a server that has nothing more to say. -/
def exhausted : Response where
  status := 500
  body := "\x7b\"kind\":\"Status\",\"status\":\"Failure\",\"message\":\"script exhausted\",\"reason\":\"Exhausted\",\"code\":500\x7d".toList

end Response

/-- The phrases of the failing statuses. -/
def phrases : List (Nat × String) := [
  (400, "Bad Request"), (401, "Unauthorized"), (402, "Payment Required"), (403, "Forbidden"), (404, "Not Found"),
  (405, "Method Not Allowed"), (406, "Not Acceptable"), (407, "Proxy Authentication Required"),
  (408, "Request Timeout"), (409, "Conflict"), (410, "Gone"), (411, "Length Required"),
  (412, "Precondition Failed"), (413, "Payload Too Large"), (414, "URI Too Long"), (415, "Unsupported Media Type"),
  (416, "Range Not Satisfiable"), (417, "Expectation Failed"), (418, "I'm a teapot"), (421, "Misdirected Request"),
  (422, "Unprocessable Entity"), (423, "Locked"), (424, "Failed Dependency"), (425, "Too Early"),
  (426, "Upgrade Required"), (428, "Precondition Required"), (429, "Too Many Requests"),
  (431, "Request Header Fields Too Large"), (451, "Unavailable For Legal Reasons"), (500, "Internal Server Error"),
  (501, "Not Implemented"), (502, "Bad Gateway"), (503, "Service Unavailable"), (504, "Gateway Timeout"),
  (505, "HTTP Version Not Supported"), (506, "Variant Also Negotiates"), (507, "Insufficient Storage"),
  (508, "Loop Detected"), (510, "Not Extended"), (511, "Network Authentication Required")]

/-- A status with its phrase. -/
def statusText (status : Nat) : Text :=
  Text.ofNat status ++ ' ' ::
    (match phrases.find? fun p => p.1 = status with
      | some p => p.2.toList
      | none => "<unknown status code>".toList)

end TaintSummary.Api
