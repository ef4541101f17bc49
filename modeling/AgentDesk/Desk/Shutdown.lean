import AgentDesk.Desk.Submit
/-!
# Stopping an agent

An agent is stopped by canceling the turns of its busy sessions, one after the other, and by waiting
until it is idle, though not beyond a deadline. Whoever stops it looks at the tracker again and
again; between two looks, anything else can happen on the desk.

## Main definitions

* `Shutdown` — how far the stopping of an agent has come.
* `Desk.stepShutdown?` — its next step.
-/

namespace AgentDesk

/-- How far the stopping of an agent has come. -/
inductive Shutdown where
  /-- It is to be seen whether the agent is busy. -/
  | asked
  /-- The busy sessions are to be listed. -/
  | listing
  /-- Some sessions are still to be canceled; behind the last one, the agent is to become idle. -/
  | canceling (rest : List String)
  /-- The agent was idle in time, or it was not. -/
  | returned (inTime : Bool)
deriving Repr, BEq, DecidableEq

namespace Desk

/-- Whether an agent is busy. -/
def isBusy (d : Desk) (post : PostId) : Bool :=
  ((d.posts[post]?).map fun p => p.tracker.isBusy).getD false

/-- The busy sessions of an agent. -/
def activeSessions (d : Desk) (post : PostId) : List String :=
  ((d.posts[post]?).map fun p => p.tracker.activeSessions).getD []

/-- The next step in stopping an agent; `late` tells whether the deadline has passed. -/
def stepShutdown? (d : Desk) (post : PostId) (late : Bool) : Shutdown → Option (Shutdown × Desk)
  | .asked => some (if d.isBusy post then .listing else .returned true, d)
  | .listing => some (.canceling (d.activeSessions post), d)
  | .canceling (session :: rest) => some (.canceling rest, d.cancel post session)
  | .canceling [] => some
    (if d.isBusy post then (if late then .returned false else .canceling []) else .returned true, d)
  | .returned _ => none

end Desk

end AgentDesk
