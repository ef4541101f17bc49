import AgentDesk.Store.Reply
/-!
# The store in a relational database

Two tables hold the sessions and the messages, and each operation is one or two statements on
them. Timestamps are kept as text, counters as signed 64-bit words, and the parts of a message as
a JSON text. A row of the messages keeps the place it was inserted at.

## Main definitions

* `SessionRow`, `MessageRow` — the rows.
* `SessionRow.ofSession?` and `SessionRow.toSession`, `MessageRow.ofMessage` and
  `MessageRow.toMessage?` — between rows and values.
* `Database` and its operations.
-/

namespace AgentDesk

/-- A row of the table of sessions. -/
structure SessionRow where
  id : String
  parent : Option String
  title : String
  promptTokens : Int
  completionTokens : Int
  summary : Option String
  cost : Float
  createdAt : String
  updatedAt : String
deriving Repr, BEq, Inhabited

/-- A row of the table of messages. -/
structure MessageRow where
  id : String
  sessionId : String
  role : String
  parts : String
  model : Option String
  provider : Option String
  createdAt : String
  updatedAt : String
deriving Repr, BEq, DecidableEq, Inhabited

/-- A counter as a signed word. -/
def signedWord (n : Nat) : Int := Int.bmod n UInt64.size

/-- A signed word as a counter; a negative one counts nothing. -/
def counterOf (i : Int) : Nat := i.toNat

/-- A number as a column of real numbers keeps it: zero has no sign, and what is not a number
cannot be kept. -/
def realColumn? (x : Float) : Option Float :=
  if x.isNaN then none else if x == 0 then some 0 else some x

/-- A kept timestamp; a text that is none stands for the present. -/
def keptTime (now : Timestamp) (text : String) : Timestamp := (Timestamp.parse? text).getD now

namespace SessionRow

/-- The row of a session, with its own time of change; `none` if the cost is not a number. -/
def ofSession? (s : Session) : Option SessionRow :=
  (realColumn? s.cost).map fun cost =>
    ⟨s.id, s.parent, s.title, signedWord s.promptTokens, signedWord s.completionTokens,
      s.summary, cost, s.createdAt.writeSortable, s.updatedAt.writeSortable⟩

/-- The session of a row that has so many messages. -/
def toSession (r : SessionRow) (now : Timestamp) (count : Nat) : Session :=
  ⟨r.id, r.parent, r.title, count, counterOf r.promptTokens, counterOf r.completionTokens,
    r.summary, r.cost, keptTime now r.createdAt, keptTime now r.updatedAt⟩

end SessionRow

namespace MessageRow

/-- The row of a message. -/
def ofMessage (m : Message) : MessageRow :=
  ⟨m.id, m.sessionId, m.role.name, (partsToJson m.parts).compact, m.model, m.provider,
    m.createdAt.writeSortable, m.updatedAt.writeSortable⟩

/-- The parts kept in a row. -/
def parts? (r : MessageRow) : Option (List Part) :=
  Shape.parse? (Document.list? Part.shape) r.parts

/-- The message of a row. -/
def toMessage? (r : MessageRow) (now : Timestamp) : Except StoreFailure Message :=
  match r.parts? with
  | none => .error (.query "parts column: invalid JSON")
  | some parts =>
    match Role.ofName? r.role with
    | none => .error (.query (Role.unknown r.role))
    | some role => .ok ⟨r.id, r.sessionId, role, parts, r.model, r.provider,
        keptTime now r.createdAt, keptTime now r.updatedAt⟩

end MessageRow

/-- The tables. -/
structure Database where
  sessions : List SessionRow
  messages : List MessageRow
deriving Inhabited

namespace Database

/-- A database without rows. -/
def empty : Database := ⟨[], []⟩

/-- The failure of a statement that would leave a session without a cost. -/
def costMissing (statement : String) : StoreFailure :=
  .storage (statement ++ " session failed: error returned from database: " ++
    "(code: 1299) NOT NULL constraint failed: sessions.cost")

/-! ## Statements -/

/-- Inserts a row of a session unless its identifier is taken. -/
def insertSession (d : Database) (row : SessionRow) : Database :=
  if d.sessions.any (·.id == row.id) then d else { d with sessions := d.sessions ++ [row] }

/-- Inserts a row of a session, or changes the row with its identifier: its parent and its time of
creation stay. -/
def upsertSession (d : Database) (row : SessionRow) : Database :=
  if d.sessions.any (·.id == row.id) then
    let change (r : SessionRow) : SessionRow :=
      if r.id == row.id then { row with parent := r.parent, createdAt := r.createdAt } else r
    { d with sessions := d.sessions.map change }
  else { d with sessions := d.sessions ++ [row] }

/-- The number of messages of a session. -/
def countMessages (d : Database) (session : String) : Nat :=
  (d.messages.filter (·.sessionId == session)).length

/-- The session of a row with the number of its messages. -/
def sessionOf (d : Database) (now : Timestamp) (row : SessionRow) : Session :=
  row.toSession now (d.countMessages row.id)

/-- Selects a session. -/
def selectSession (d : Database) (now : Timestamp) (id : String) : Except StoreFailure Session :=
  match d.sessions.find? (·.id == id) with
  | some row => .ok (d.sessionOf now row)
  | none => .error (.sessionNotFound id)

/-- The rows of the messages of a session, in order of insertion. -/
def rowsOf (d : Database) (session : String) : List MessageRow :=
  d.messages.filter (·.sessionId == session)

/-! ## Operations -/

/-- Creates a session. -/
def createSession (d : Database) (now : Timestamp) (id title : String) :
    StoreReply Database Session :=
  let session := Session.fresh id title now
  match SessionRow.ofSession? session with
  | some row => .quiet (d.insertSession row) (.ok session)
  | none => .quiet d (.error (costMissing "INSERT"))

/-- Inserts a session unless it exists, and selects it. -/
def getOrInsert (d : Database) (now : Timestamp) (session : Session) :
    StoreReply Database Session :=
  match SessionRow.ofSession? session with
  | some row =>
    let d := d.insertSession row
    .quiet d (d.selectSession now session.id)
  | none => .quiet d (.error (costMissing "INSERT"))

/-- Opens the session of a delegated task; one that exists is kept as it is. -/
def openTask (d : Database) (now : Timestamp) (callId parent title : String) :
    StoreReply Database Session :=
  d.getOrInsert now (Session.task callId parent title now)

/-- Finds a session; an unknown one is created. -/
def getSession (d : Database) (now : Timestamp) (id : String) : StoreReply Database Session :=
  d.getOrInsert now (Session.fresh id Session.defaultTitle now)

/-- Saves a session. -/
def saveSession (d : Database) (now : Timestamp) (session : Session) :
    StoreReply Database Session :=
  match SessionRow.ofSession? { session with updatedAt := now } with
  | some row =>
    let d := d.upsertSession row
    .quiet d (d.selectSession now session.id)
  | none => .quiet d (.error (costMissing "UPSERT"))

/-- All sessions, the latest change first. -/
def listSessions (d : Database) (now : Timestamp) : StoreReply Database (List Session) :=
  let rows := d.sessions.mergeSort fun a b => b.updatedAt ≤ a.updatedAt
  .quiet d (.ok (rows.map (d.sessionOf now)))

/-- Creates a message at the end of its session. -/
def createMessage (d : Database) (now : Timestamp) (id session : String) (draft : Draft) :
    StoreReply Database Message :=
  let message := draft.toMessage id session now
  ⟨.ok message, { d with messages := d.messages ++ [MessageRow.ofMessage message] },
    [⟨.created, message⟩]⟩

/-- Changes the parts, the model and the provider of a message that exists. What is announced is
the message as it was handed in. -/
def updateMessage (d : Database) (now : Timestamp) (message : Message) :
    StoreReply Database Unit :=
  let row := MessageRow.ofMessage { message with updatedAt := now }
  if d.messages.any (·.id == message.id) then
    let change (r : MessageRow) : MessageRow :=
      if r.id == message.id then
        { r with parts := row.parts, model := row.model, provider := row.provider,
                 updatedAt := row.updatedAt }
      else r
    ⟨.ok (), { d with messages := d.messages.map change }, [⟨.updated, message⟩]⟩
  else .quiet d (.error (.messageNotFound message.id))

/-- Finds a message. -/
def getMessage (d : Database) (now : Timestamp) (id : String) : StoreReply Database Message :=
  .quiet d <| match d.messages.find? (·.id == id) with
    | some row => row.toMessage? now
    | none => .error (.messageNotFound id)

/-- The messages of a session in order of creation. -/
def messagesOf (d : Database) (now : Timestamp) (session : String) :
    Except StoreFailure (List Message) :=
  (d.rowsOf session).mapM (·.toMessage? now)

/-- The messages of a session in order of creation, as a reply. -/
def listMessages (d : Database) (now : Timestamp) (session : String) :
    StoreReply Database (List Message) :=
  .quiet d (d.messagesOf now session)

/-- Removes the messages of a session. -/
def deleteMessages (d : Database) (now : Timestamp) (session : String) :
    StoreReply Database Unit :=
  match d.messagesOf now session with
  | .error e => .quiet d (.error e)
  | .ok removed =>
    ⟨.ok (), { d with messages := d.messages.filter fun r => !(r.sessionId == session) },
      removed.map (⟨.deleted, ·⟩)⟩

end Database

end AgentDesk
