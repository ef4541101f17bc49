import AgentDesk.Desk.Step
/-!
# Letting a desk settle

A desk settles when its tasks make steps until none of them can. The order chosen here is one of
many: in each pass the latest turn comes first, each turn goes on until it has to wait, and a turn
whose course has ended waits for the next pass before it leaves the tracker.

## Main definitions

* `Desk.pass` — one pass over all tasks.
* `Desk.settle` — passes until nothing can move.
-/

namespace AgentDesk

namespace Desk

/-! ## How much there is to do -/

/-- The sum of some sizes. -/
def total (sizes : List Nat) : Nat := sizes.foldl (· + ·) 0

/-- The size of what an event can set off. -/
def eventSize : StreamEvent → Nat
  | .complete answer => 2 + answer.toolCalls.length
  | _ => 2

/-- The size of the events of a stream. -/
def eventsSize (events : List StreamEvent) : Nat := total (events.map eventSize)

/-- The size of a prepared turn. -/
def scriptedSize : ScriptedTurn → Nat
  | .stream _ events _ => 2 + eventsSize events
  | _ => 1

/-- The size of what a source will still say of itself. -/
def sourceSize : Source → Nat
  | .script s => total (s.turns.map scriptedSize)
  | .service _ => 0

/-- The size of a reply in the network; every event takes at least one byte. -/
def replySize (reply : HttpReply) : Nat := 4 + 4 * reply.body.size

/-- The size of what is left to do: what providers will still say, what streams still hold, what
is queued, and one for every task. -/
def workload (d : Desk) : Nat :=
  total (d.sources.map sourceSize) + total (d.bench.network.replies.map replySize) +
  total (d.turns.map fun t => 1 + ((t.stream.map fun s => eventsSize s.events).getD 0)) +
  total (d.posts.map fun p => total (p.tracker.queues.map fun q => q.2.length)) +
  d.errands.length + 1

/-- A number of steps in which everything that can happen has happened. -/
def patience (d : Desk) : Nat := (d.maxDepth + 100) * d.workload

/-! ## Passes -/

/-- Whether the course of a turn has just ended. -/
def courseEnded (d : Desk) (i : Nat) : Bool :=
  match d.turns[i]? with
  | some t => (match t.stage with
    | .unregistering _ => true
    | _ => false)
  | none => false

/-- Steps of a turn and its tool until both have to wait; tells whether there was one. -/
def runTurn (i : Nat) : Nat → Bool × Desk → Bool × Desk
  | 0, r => r
  | fuel + 1, (moved, d) =>
    match d.step? (.toolOf i) with
    | some d => runTurn i fuel (true, d)
    | none =>
      match d.step? (.turn i) with
      | none => (moved, d)
      | some d => if d.courseEnded i then (true, d) else runTurn i fuel (true, d)

/-- Steps of an errand without a turn until it has to wait; tells whether there was one. -/
def runErrand (i : Nat) : Nat → Bool × Desk → Bool × Desk
  | 0, r => r
  | fuel + 1, (moved, d) =>
    match d.step? (.errand i) with
    | some d => runErrand i fuel (true, d)
    | none => (moved, d)

/-- One pass over all tasks; tells whether there was a step. -/
def pass (fuel : Nat) (d : Desk) : Bool × Desk :=
  let r := (List.range d.turns.length).reverse.foldl (fun r i => runTurn i fuel r) (false, d)
  (List.range d.errands.length).reverse.foldl (fun r i => runErrand i fuel r) r

/-- Passes until nothing can move. -/
def settleWithin : Nat → Nat → Desk → Desk
  | 0, _, d => d
  | passes + 1, fuel, d =>
    match d.pass fuel with
    | (true, d) => settleWithin passes fuel d
    | (false, d) => d

/-- Lets everything happen that can. -/
def settle (d : Desk) : Desk := settleWithin d.patience d.patience d

end Desk

end AgentDesk
