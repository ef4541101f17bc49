import AgentDesk.Broker
import AgentDesk.Failure
import AgentDesk.Session
/-!
# Replies of a store

Every operation of a store answers with a value or a failure, leaves a new store behind, and
announces what happened to messages.

## Main definitions

* `StoreReply` — result, store and announcements.
* `newestFirst` — the order in which sessions are listed.
-/

namespace AgentDesk

/-- What an operation of a store gives back. -/
structure StoreReply (σ : Type) (α : Type) where
  result : Except StoreFailure α
  store : σ
  changes : List (Change Message)

namespace StoreReply

/-- A reply without announcements. -/
def quiet (store : σ) (result : Except StoreFailure α) : StoreReply σ α := ⟨result, store, []⟩

/-- A reply of a larger store. -/
def lift (f : σ → τ) (r : StoreReply σ α) : StoreReply τ α := ⟨r.result, f r.store, r.changes⟩

end StoreReply

/-- Sessions with the latest change first. -/
def newestFirst (sessions : List Session) : List Session :=
  sessions.mergeSort fun a b => !a.updatedAt.before b.updatedAt

end AgentDesk
