import TaintSummary.Text

/-!
# Request targets

A path, perhaps with a query after a question mark. What follows a number sign is not sent and not looked at. Only characters
that a target may hold are accepted, and only up to a size.
-/

namespace TaintSummary.Api

/-- Why a text is no target. -/
inductive TargetError
  | invalidCharacter
  | tooLong
  deriving DecidableEq

/-- The message of the error. -/
def TargetError.message : TargetError → Text
  | .invalidCharacter => "invalid uri character".toList
  | .tooLong => "uri too long".toList

namespace Target

/-- The number of bytes a target may have. -/
def sizeLimit : Nat := 65534

/-- The character may stand in a query. -/
def isQueryChar (c : Char) : Bool :=
  c = '!' || ('$' ≤ c && c ≤ ';') || c = '=' || ('?' ≤ c && c ≤ '~') || 0x80 ≤ c.toNat

/-- The character may stand in a path. -/
def isPathChar (c : Char) : Bool :=
  c = '!' || ('$' ≤ c && c ≤ ';') || c = '=' || ('@' ≤ c && c ≤ '_') || ('a' ≤ c && c ≤ 'z') ||
    c = '|' || c = '~' || 0x80 ≤ c.toNat || c = '"' || c = '\x7b' || c = '\x7d'

/-- The query up to a number sign; `none` when a character before that may not stand in a query. -/
def query? : Text → Option Text
  | [] => some []
  | c :: rest =>
    if c = '#' then some []
    else if isQueryChar c then (query? rest).map (c :: ·)
    else none

/-- The path and the query up to a number sign; `none` when a character before that may not stand there. -/
def sent? : Text → Option Text
  | [] => some []
  | c :: rest =>
    if c = '#' then some []
    else if c = '?' then (query? rest).map (c :: ·)
    else if isPathChar c then (sent? rest).map (c :: ·)
    else none

/-- What is sent of a target. -/
def parse (t : Text) : Except TargetError Text :=
  if sizeLimit < Text.byteSize t then .error .tooLong
  else match sent? t with
    | some sent => .ok sent
    | none => .error .invalidCharacter

end Target

end TaintSummary.Api
