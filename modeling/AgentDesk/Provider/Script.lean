import AgentDesk.Turn.Request
/-!
# Scripted providers

A scripted provider serves one prepared turn for each request and remembers what it was asked. A
turn may be held back by a gate, and its stream may stay open behind its last event.

## Main definitions

* `ScriptedTurn`, `Script`.
* `Script.serve` — answers a request.
-/

namespace AgentDesk

/-- What a prepared turn does: it streams events, or the stream does not open, or the provider
breaks down. -/
inductive ScriptedTurn where
  | stream (gate : Option String) (events : List StreamEvent) (hangs : Bool)
  | refusal (cause : ProviderFailure)
  | breakdown (message : String)
deriving Repr, BEq, DecidableEq

/-- The turns that are left, the number of requests that reached the script, and all requests. -/
structure Script where
  turns : List ScriptedTurn
  served : Nat
  requests : List ModelRequest

/-- The stream that a script opens. -/
structure PreparedStream where
  gate : Option String
  events : List StreamEvent
  hangs : Bool
deriving Repr, BEq, DecidableEq

namespace Script

/-- A script of which nothing was served. -/
def ofTurns (turns : List ScriptedTurn) : Script := ⟨turns, 0, []⟩

/-- The failure of a request for which no turn is left. -/
def exhausted (call : Nat) : ProviderFailure := .api 500 s!"no scripted turn for call #{call}"

/-- Answers a request: how the opening ends, and the stream if it opens. -/
def serve (s : Script) (request : ModelRequest) : Opening × Option PreparedStream × Script :=
  let requests := s.requests ++ [request]
  match s.turns with
  | [] => (.failed (exhausted (s.served + 1)), none, ⟨[], s.served + 1, requests⟩)
  | .refusal cause :: rest => (.failed cause, none, ⟨rest, s.served, requests⟩)
  | .breakdown message :: rest => (.panicked message, none, ⟨rest, s.served, requests⟩)
  | .stream gate events hangs :: rest =>
    (.opened, some ⟨gate, events, hangs⟩, ⟨rest, s.served + 1, requests⟩)

end Script

end AgentDesk
