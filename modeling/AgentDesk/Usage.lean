import AgentDesk.Model
/-!
# What a session uses

The cost of an answer under the prices of a model, and the running totals of a session.

## Main definitions

* `completionCost` — the cost of one answer.
* `accrue` — adds one answer to a session.
* `rollUp` — adds the cost of a delegated session to its parent.
-/

namespace AgentDesk.Usage

/-- A count as a floating-point number. -/
def amount (n : Nat) : Float := (UInt64.ofNat n).toFloat

/-- The cost of one answer in dollars: tokens written to the cache first, then those read from it,
then the plain input and the output. -/
def completionCost (m : Model) (t : Tokens) : Float :=
  m.cacheWritePrice / 1e6 * amount t.cacheWrite
    + m.cacheReadPrice / 1e6 * amount t.cacheRead
    + m.inputPrice / 1e6 * amount t.input
    + m.outputPrice / 1e6 * amount t.output

/-- Adds one answer to the totals of a session. -/
def accrue (m : Model) (t : Tokens) (s : Session) : Session :=
  { s with
    cost := s.cost + completionCost m t
    promptTokens := s.promptTokens + (t.input + t.cacheWrite)
    completionTokens := s.completionTokens + (t.output + t.cacheRead) }

/-- Adds the cost of a delegated session to its parent. -/
def rollUp (child parent : Session) : Session := { parent with cost := parent.cost + child.cost }

end AgentDesk.Usage
