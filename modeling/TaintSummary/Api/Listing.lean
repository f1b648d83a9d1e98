import TaintSummary.Api.Exchange
import TaintSummary.Api.FormEncoding
import TaintSummary.Api.Page

/-!
# Listings

All objects at a path, asked for page by page. A page that fails with a failure that may pass is asked for again after a while,
three times in all; any other failure ends the listing, and so does a page without a token.
-/

namespace TaintSummary.Api

/-- Why a listing fails. -/
inductive ListingError
  /-- A request failed for good. -/
  | refused (plural : Text) (e : RequestError)
  /-- A page could not be had after as many attempts as are made. -/
  | retriesExhausted (plural : Text) (e : RequestError)

/-- The number of times a page is asked for. -/
def attemptLimit : Nat := 3

/-- The message of the error. -/
def ListingError.message : ListingError → Text
  | .refused plural e => "K8s API error listing ".toList ++ plural ++ ": ".toList ++ e.text
  | .retriesExhausted plural e =>
    "Failed to list ".toList ++ plural ++ " after ".toList ++ Text.ofNat attemptLimit ++ " retries: ".toList ++ e.text

/-- The number of objects asked for at once. -/
def pageSize : Nat := 500

/-- The wait after a failure, by the number of failures before it: it doubles each time. -/
def delayMs (failures : Nat) : Nat := 100 * Nat.pow 2 failures

/-- A set of objects that a server lists. -/
structure Listing where
  path : Text
  /-- What the objects are called in messages. -/
  plural : Text

namespace Listing

/-- The target of a page; the first page has no token. -/
def target (l : Listing) (token : Text) : Text :=
  l.path ++ "?&limit=".toList ++ Text.ofNat pageSize ++
    (if token = [] then [] else "&continue=".toList ++ FormEncoding.encode token)

/-- What is done after an answer. -/
inductive Step
  | take (p : Page)
  | again
  | stop (e : ListingError)

/-- What is done after the answer to a page's request, so many failures having come before. -/
def step (l : Listing) (failures : Nat) (r : Response) : Step :=
  match r.read Page.shape Page.ofJson? with
  | .ok page => .take page
  | .error e =>
    if e.isRetryable then
      if failures + 1 < attemptLimit then .again else .stop (.retriesExhausted l.plural e)
    else .stop (.refused l.plural e)

/-- The wait after the answer: every failure that may pass is followed by one, the last one too. -/
def Step.waitMs (failures : Nat) : Step → Nat
  | .again => delayMs failures
  | .stop (.retriesExhausted ..) => delayMs failures
  | _ => 0

/-- The objects from the page with the token on, which has failed so many times. -/
def fetchFrom (l : Listing) : List Response → (failures : Nat) → (token : Text) → Exchange ListingError (List Object)
  | [], _, token =>
    .ask (l.target token) (.refused l.plural <| .target ·)
      (.pure (.error (.refused l.plural (.failure (.ofResponse .exhausted)))))
  | r :: script, failures, token =>
    let step := l.step failures r
    .ask (l.target token) (.refused l.plural <| .target ·) <| .delayed (step.waitMs failures) <|
      match step with
      | .take page =>
        if page.token = [] then .pure (.ok page.objects)
        else (fetchFrom l script 0 page.token).mapResult (.map (page.objects ++ ·))
      | .again => fetchFrom l script (failures + 1) token
      | .stop e => .pure (.error e)

/-- All objects. -/
def fetch (l : Listing) (script : List Response) : Exchange ListingError (List Object) := l.fetchFrom script 0 []

end Listing

end TaintSummary.Api
