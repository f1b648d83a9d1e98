import TaintSummary.Api.Discovery
import TaintSummary.Api.Listing
import TaintSummary.Kubeconfig
import TaintSummary.Settings

/-!
# Failing runs

Everything that a run can fail with. An error has a message and the messages of its causes, down to the root of it.
-/

namespace TaintSummary

/-- The messages of an entry that cannot be read. -/
def EntryError.messages : EntryError → List Text
  | .undecodable path entry =>
    ["Failed to decode ".toList ++ Text.join ['.'] path ++ " entry: ".toList ++ Json.compact entry]
  | .specifier e => [e.message]

/-- The messages of an object that cannot be read. -/
def Unreadable.messages (u : Unreadable) : List Text :=
  ("Failed to read ".toList ++ u.kind ++ " '".toList ++ u.name ++ "'".toList) :: u.cause.messages

/-- Why a run gives no report. -/
inductive RunError
  | settings (e : SettingsError)
  /-- The expression of the filter is refused. -/
  | expression (text : Text) (e : SpecifierError)
  | connection (e : ConnectionError)
  | discovery (e : Api.DiscoveryError)
  | listing (e : Api.ListingError)
  | unreadable (u : Unreadable)

namespace RunError

/-- The messages of the error, the outermost first. -/
def messages : RunError → List Text
  | .settings e => [e.message]
  | .expression text e => ["Invalid match expression '".toList ++ text ++ "'".toList, e.message]
  | .connection e => e.messages
  | .discovery e => e.messages
  | .listing e => [e.message]
  | .unreadable u => u.messages

/-- A message with the lines after its first one indented. -/
def indented (columns : Nat) (message : Text) : Text :=
  Text.join ('\n' :: Text.spaces columns) (Text.pieces '\n' message)

/-- A cause with its number. -/
def numbered (n : Nat) (message : Text) : Text :=
  let number := Text.ofNat n
  Text.spaces (5 - number.length) ++ number ++ ": ".toList ++ indented 7 message

/-- The causes as they are shown: a single one is not numbered. -/
def causeLines : List Text → List Text
  | [cause] => [Text.spaces 4 ++ indented 4 cause]
  | causes => causes.mapIdx numbered

/-- The error as it is reported. -/
def report (e : RunError) : Text :=
  match e.messages with
  | [] => []
  | message :: causes =>
    "Error: ".toList ++ message ++ ['\n'] ++
      (if causes.isEmpty then []
        else "\nCaused by:\n".toList ++ (causeLines causes).flatMap fun line => line ++ ['\n'])

end RunError

end TaintSummary
