import AgentDesk.Store.Reply
/-!
# The store in memory

Sessions are kept in a table and messages in one list, in order of creation. The number of
messages of a session is counted anew for every reply.

## Main definitions

* `MemoryStore` and its operations.
-/

namespace AgentDesk

/-- Sessions by identifier, and all messages in order of creation. -/
structure MemoryStore where
  sessions : Table String Session
  messages : List Message
deriving Inhabited

namespace MemoryStore

/-- The store without content. -/
def empty : MemoryStore := ⟨[], []⟩

/-- The messages of a session. -/
def messagesOf (s : MemoryStore) (session : String) : List Message :=
  s.messages.filter (·.sessionId == session)

/-- A session with the number of its messages. -/
def counted (s : MemoryStore) (session : Session) : Session :=
  { session with messageCount := (s.messagesOf session.id).length }

/-- Creates a session. -/
def createSession (s : MemoryStore) (now : Timestamp) (id title : String) :
    StoreReply MemoryStore Session :=
  let session := Session.fresh id title now
  .quiet { s with sessions := Table.put id session s.sessions } (.ok session)

/-- The session under an identifier, put there first if it is missing. -/
def getOrPut (s : MemoryStore) (fresh : Session) : StoreReply MemoryStore Session :=
  match Table.get? fresh.id s.sessions with
  | some session => .quiet s (.ok (s.counted session))
  | none =>
    let s := { s with sessions := Table.put fresh.id fresh s.sessions }
    .quiet s (.ok (s.counted fresh))

/-- Opens the session of a delegated task; one that exists is kept as it is. -/
def openTask (s : MemoryStore) (now : Timestamp) (callId parent title : String) :
    StoreReply MemoryStore Session :=
  s.getOrPut (Session.task callId parent title now)

/-- Finds a session; an unknown one is created. -/
def getSession (s : MemoryStore) (now : Timestamp) (id : String) : StoreReply MemoryStore Session :=
  s.getOrPut (Session.fresh id Session.defaultTitle now)

/-- Saves a session. -/
def saveSession (s : MemoryStore) (now : Timestamp) (session : Session) :
    StoreReply MemoryStore Session :=
  let session := { session with updatedAt := now }
  let s := { s with sessions := Table.put session.id session s.sessions }
  .quiet s (.ok (s.counted session))

/-- All sessions, the latest change first. -/
def listSessions (s : MemoryStore) : StoreReply MemoryStore (List Session) :=
  .quiet s (.ok ((newestFirst (s.sessions.map (·.2))).map s.counted))

/-- Creates a message at the end of its session. -/
def createMessage (s : MemoryStore) (now : Timestamp) (id session : String) (draft : Draft) :
    StoreReply MemoryStore Message :=
  let message := draft.toMessage id session now
  ⟨.ok message, { s with messages := s.messages ++ [message] }, [⟨.created, message⟩]⟩

/-- Replaces a message that exists. -/
def updateMessage (s : MemoryStore) (now : Timestamp) (message : Message) :
    StoreReply MemoryStore Unit :=
  let message := { message with updatedAt := now }
  let replace (m : Message) : Option Message := if m.id == message.id then some message else none
  match changeFirst? replace s.messages with
  | some messages => ⟨.ok (), { s with messages }, [⟨.updated, message⟩]⟩
  | none => .quiet s (.error (.messageNotFound message.id))

/-- Finds a message. -/
def getMessage (s : MemoryStore) (id : String) : StoreReply MemoryStore Message :=
  .quiet s <| match s.messages.find? (·.id == id) with
    | some m => .ok m
    | none => .error (.messageNotFound id)

/-- The messages of a session in order of creation. -/
def listMessages (s : MemoryStore) (session : String) : StoreReply MemoryStore (List Message) :=
  .quiet s (.ok (s.messagesOf session))

/-- Removes the messages of a session. -/
def deleteMessages (s : MemoryStore) (session : String) : StoreReply MemoryStore Unit :=
  ⟨.ok (), { s with messages := s.messages.filter fun m => !(m.sessionId == session) },
    (s.messagesOf session).map (⟨.deleted, ·⟩)⟩

end MemoryStore

end AgentDesk
