import AgentDesk.Table
/-!
# Broadcasting events

A broker hands every event to all its subscribers. It keeps the latest events in a buffer of fixed
size; a subscriber that falls behind by more than the buffer is told how many it has missed and
goes on with the oldest event that is kept.

## Main definitions

* `Broker`, `Broker.publish`, `Broker.subscribe`, `Broker.unsubscribe`.
* `Broker.receive` and `Reception`.
-/

namespace AgentDesk

/-- What happened to the subject of an event. -/
inductive ChangeKind where
  | created
  | updated
  | deleted
deriving Repr, BEq, DecidableEq, Inhabited

/-- The written name of a kind. -/
def ChangeKind.name : ChangeKind → String
  | .created => "created"
  | .updated => "updated"
  | .deleted => "deleted"

/-- An event of a broker. -/
structure Change (α : Type) where
  kind : ChangeKind
  payload : α
deriving Repr, BEq

/-- A broker: the size of its buffer, all events since it was made, and how many of them each
subscriber has behind it. -/
structure Broker (α : Type) where
  capacity : Nat
  events : Array (Change α)
  subscribers : Table String Nat

/-- What a subscriber finds. -/
inductive Reception (α : Type) where
  | event (change : Change α)
  | empty
  | lagged (missed : Nat)

namespace Broker

variable {α : Type}

/-- The smallest power of two that is not below `n`, found in at most `fuel` doublings. -/
def powerFrom (n : Nat) : Nat → Nat → Nat
  | 0, p => p
  | fuel + 1, p => if n ≤ p then p else powerFrom n fuel (2 * p)

/-- A broker whose buffer holds at least `n` events; the size is a power of two. -/
def ofCapacity (n : Nat) : Broker α := ⟨powerFrom n n 1, #[], []⟩

/-- A broker with the usual buffer. -/
def standard : Broker α := ofCapacity 256

/-- The number of subscribers. -/
def subscriberCount (b : Broker α) : Nat := b.subscribers.length

/-- Adds a subscriber that sees the events published from now on. -/
def subscribe (b : Broker α) (name : String) : Broker α :=
  { b with subscribers := Table.put name b.events.size b.subscribers }

/-- Removes a subscriber. -/
def unsubscribe (b : Broker α) (name : String) : Broker α :=
  { b with subscribers := Table.erase name b.subscribers }

/-- Publishes an event and tells how many subscribers get it; without subscribers it is lost. -/
def publish (b : Broker α) (kind : ChangeKind) (payload : α) : Nat × Broker α :=
  if b.subscribers.isEmpty then (0, b)
  else (b.subscriberCount, { b with events := b.events.push ⟨kind, payload⟩ })

/-- The next event for a subscriber. One that is unknown finds nothing. -/
def receive (b : Broker α) (name : String) : Reception α × Broker α :=
  match Table.get? name b.subscribers with
  | none => (.empty, b)
  | some next =>
    let oldest := b.events.size - b.capacity
    if next < oldest then
      (.lagged (oldest - next), { b with subscribers := Table.put name oldest b.subscribers })
    else
      match b.events[next]? with
      | some change =>
        (.event change, { b with subscribers := Table.put name (next + 1) b.subscribers })
      | none => (.empty, b)

/-- The text that shows a broker. -/
def describe (b : Broker α) : String := s!"Broker \x7b subscribers: {b.subscriberCount} \x7d"

end Broker

end AgentDesk
