import AgentDesk.Store
/-!
# Outages of a store

A store may fail. A plan tells which call of an operation fails, counted from one, and why; a call
that fails leaves the store as it was.

## Main definitions

* `StoreOperation`, `Outage`.
* `WatchedStore` — a store whose calls are counted against a plan.
* `WatchedStore.perform` — one call.
-/

namespace AgentDesk

/-- The operations whose calls are counted. -/
inductive StoreOperation where
  | getSession
  | saveSession
  | openTask
  | createMessage
  | updateMessage
  | listMessages
deriving Repr, BEq, DecidableEq

/-- A call that fails. -/
structure Outage where
  operation : StoreOperation
  nth : Nat
  cause : StoreFailure
deriving Repr, BEq, DecidableEq

/-- A store, the number of calls of each operation so far, and the calls that fail. -/
structure WatchedStore where
  store : Store
  calls : Table StoreOperation Nat
  outages : List Outage

namespace WatchedStore

/-- A store without calls so far. -/
def ofStore (store : Store) (outages : List Outage) : WatchedStore := ⟨store, [], outages⟩

/-- The outage of the next call of an operation. -/
def nextOutage? (w : WatchedStore) (operation : StoreOperation) : Option Outage :=
  let nth := (Table.get? operation w.calls).getD 0 + 1
  w.outages.find? fun o => o.operation == operation && o.nth == nth

/-- Counts a call. -/
def count (w : WatchedStore) (operation : StoreOperation) : WatchedStore :=
  { w with calls := Table.put operation ((Table.get? operation w.calls).getD 0 + 1) w.calls }

/-- Performs one call, unless it fails by the plan. -/
def perform (w : WatchedStore) (operation : StoreOperation)
    (act : Store → StoreReply Store α) : Except StoreFailure α × WatchedStore :=
  let w' := w.count operation
  match w.nextOutage? operation with
  | some outage => (.error outage.cause, w')
  | none =>
    let reply := act w.store
    (reply.result, { w' with store := reply.store })

end WatchedStore

end AgentDesk
