import AgentDesk.Store.Memory
import AgentDesk.Store.Database
/-!
# Stores

A store keeps sessions and their messages, in memory or in a database. Both answer the same
operations.

## Main definitions

* `Store` and its operations.
-/

namespace AgentDesk

/-- A store of either kind. -/
inductive Store where
  | memory (content : MemoryStore)
  | database (content : Database)
deriving Inhabited

namespace Store

/-- Creates a session under a fresh identifier. -/
def createSession (now : Timestamp) (id title : String) : Store → StoreReply Store Session
  | .memory s => (s.createSession now id title).lift .memory
  | .database d => (d.createSession now id title).lift .database

/-- Opens the session of a delegated task, named by the tool call. -/
def openTask (now : Timestamp) (callId parent title : String) : Store → StoreReply Store Session
  | .memory s => (s.openTask now callId parent title).lift .memory
  | .database d => (d.openTask now callId parent title).lift .database

/-- Finds a session; an unknown one is created. -/
def getSession (now : Timestamp) (id : String) : Store → StoreReply Store Session
  | .memory s => (s.getSession now id).lift .memory
  | .database d => (d.getSession now id).lift .database

/-- Saves a session. -/
def saveSession (now : Timestamp) (session : Session) : Store → StoreReply Store Session
  | .memory s => (s.saveSession now session).lift .memory
  | .database d => (d.saveSession now session).lift .database

/-- All sessions, the latest change first. -/
def listSessions (now : Timestamp) : Store → StoreReply Store (List Session)
  | .memory s => s.listSessions.lift .memory
  | .database d => (d.listSessions now).lift .database

/-- Creates a message under a fresh identifier. -/
def createMessage (now : Timestamp) (id session : String) (draft : Draft) :
    Store → StoreReply Store Message
  | .memory s => (s.createMessage now id session draft).lift .memory
  | .database d => (d.createMessage now id session draft).lift .database

/-- Changes a message that exists. -/
def updateMessage (now : Timestamp) (message : Message) : Store → StoreReply Store Unit
  | .memory s => (s.updateMessage now message).lift .memory
  | .database d => (d.updateMessage now message).lift .database

/-- Finds a message. -/
def getMessage (now : Timestamp) (id : String) : Store → StoreReply Store Message
  | .memory s => (s.getMessage id).lift .memory
  | .database d => (d.getMessage now id).lift .database

/-- The messages of a session in order of creation. -/
def listMessages (now : Timestamp) (session : String) : Store → StoreReply Store (List Message)
  | .memory s => (s.listMessages session).lift .memory
  | .database d => (d.listMessages now session).lift .database

/-- Removes the messages of a session. -/
def deleteMessages (now : Timestamp) (session : String) : Store → StoreReply Store Unit
  | .memory s => (s.deleteMessages session).lift .memory
  | .database d => (d.deleteMessages now session).lift .database

end Store

end AgentDesk
