import AgentDesk.Store
/-!
# Calls of a store

Every operation of a store as a value, so that one theorem can speak of all of them.

## Main definitions

* `StoreCall` — what a store can be asked for.
* `StoreAnswer` — what it answers.
* `MemoryStore.answer`, `Database.answer`, `Store.answer` — one call.
-/

namespace AgentDesk

/-- What a store can be asked for. -/
inductive StoreCall where
  | createSession (id title : String)
  | openTask (callId parent title : String)
  | getSession (id : String)
  | saveSession (session : Session)
  | listSessions
  | createMessage (id session : String) (draft : Draft)
  | updateMessage (message : Message)
  | getMessage (id : String)
  | listMessages (session : String)
  | deleteMessages (session : String)

/-- What a store answers. -/
inductive StoreAnswer where
  | session (session : Session)
  | sessions (sessions : List Session)
  | message (message : Message)
  | messages (messages : List Message)
  | done

/-- The session whose row a call may write. Asking for a session only writes the row of one that is
opened by it, which says nothing yet. -/
def StoreCall.files? : StoreCall → Option String
  | .createSession id _ | .openTask id _ _ => some id
  | .saveSession s => some s.id
  | _ => none

/-- Changes the result of a reply. -/
def StoreReply.map (f : α → β) (r : StoreReply σ α) : StoreReply σ β :=
  ⟨r.result.map f, r.store, r.changes⟩

@[simp] theorem StoreReply.store_map (f : α → β) (r : StoreReply σ α) :
    (r.map f).store = r.store := rfl

@[simp] theorem StoreReply.store_lift (f : σ → τ) (r : StoreReply σ α) :
    (r.lift f).store = f r.store := rfl

/-- One call of the store in memory. -/
def MemoryStore.answer (now : Timestamp) (s : MemoryStore) :
    StoreCall → StoreReply MemoryStore StoreAnswer
  | .createSession id title => (s.createSession now id title).map .session
  | .openTask callId parent title => (s.openTask now callId parent title).map .session
  | .getSession id => (s.getSession now id).map .session
  | .saveSession session => (s.saveSession now session).map .session
  | .listSessions => s.listSessions.map .sessions
  | .createMessage id session draft => (s.createMessage now id session draft).map .message
  | .updateMessage message => (s.updateMessage now message).map fun _ => .done
  | .getMessage id => (s.getMessage id).map .message
  | .listMessages session => (s.listMessages session).map .messages
  | .deleteMessages session => (s.deleteMessages session).map fun _ => .done

/-- One call of a database. -/
def Database.answer (now : Timestamp) (d : Database) :
    StoreCall → StoreReply Database StoreAnswer
  | .createSession id title => (d.createSession now id title).map .session
  | .openTask callId parent title => (d.openTask now callId parent title).map .session
  | .getSession id => (d.getSession now id).map .session
  | .saveSession session => (d.saveSession now session).map .session
  | .listSessions => (d.listSessions now).map .sessions
  | .createMessage id session draft => (d.createMessage now id session draft).map .message
  | .updateMessage message => (d.updateMessage now message).map fun _ => .done
  | .getMessage id => (d.getMessage now id).map .message
  | .listMessages session => (d.listMessages now session).map .messages
  | .deleteMessages session => (d.deleteMessages now session).map fun _ => .done

/-- One call of a store of either kind. -/
def Store.answer (now : Timestamp) (c : StoreCall) : Store → StoreReply Store StoreAnswer
  | .memory s => (s.answer now c).lift .memory
  | .database d => (d.answer now c).lift .database

end AgentDesk
