import TaintSummary.Api.RequestError

/-!
# Exchanges with a server

What was asked of a server, how long was waited between the requests, and what came of it. The server is a list of the answers
it will give.
-/

namespace TaintSummary.Api

/-- The record of a conversation that ends in a value or in an error. -/
structure Exchange (ε α : Type) where
  /-- The targets in the order in which they were asked for. -/
  requests : List Text
  sleptMs : Nat
  result : Except ε α

namespace Exchange

variable {ε ε' α β : Type}

/-- Nothing is asked. -/
def pure (result : Except ε α) : Exchange ε α := ⟨[], 0, result⟩

/-- A wait before the exchange. -/
def delayed (ms : Nat) (x : Exchange ε α) : Exchange ε α := { x with sleptMs := ms + x.sleptMs }

/-- The exchange after a request, which may fail before it is sent. -/
def ask (target : Text) (invalid : TargetError → ε) (x : Exchange ε α) : Exchange ε α :=
  match Target.parse target with
  | .ok sent => { x with requests := sent :: x.requests }
  | .error e => pure (.error (invalid e))

/-- The exchange, its result changed. -/
def mapResult (f : Except ε α → Except ε' β) (x : Exchange ε α) : Exchange ε' β := ⟨x.requests, x.sleptMs, f x.result⟩

/-- One exchange after another, if the first one ends in a value. -/
def andThen (x : Exchange ε α) (f : α → Exchange ε β) : Exchange ε β :=
  match x.result with
  | .ok a => ⟨x.requests ++ (f a).requests, x.sleptMs + (f a).sleptMs, (f a).result⟩
  | .error e => ⟨x.requests, x.sleptMs, .error e⟩

/-- The requests as they are shown. -/
def requestLines (x : Exchange ε α) : List Text := x.requests.map ("GET ".toList ++ ·)

end Exchange

end TaintSummary.Api
