import AgentDesk.Message.Json
/-!
# Sessions

A session is one conversation. A session with a parent was opened for a task that another session
delegated.

## Main definitions

* `Session`, `Session.fresh`, `Session.task`, `Session.isTask`.
* `Session.toJson` and `Session.shape`.
-/

namespace AgentDesk

/-- A conversation and what it has used so far. The store derives the number of messages. -/
structure Session where
  id : String
  parent : Option String
  title : String
  messageCount : Nat
  promptTokens : Nat
  completionTokens : Nat
  summary : Option String
  cost : Float
  createdAt : Timestamp
  updatedAt : Timestamp
deriving Repr, BEq, Inhabited

namespace Session

/-- A session that has used nothing yet. -/
def fresh (id title : String) (now : Timestamp) : Session :=
  ⟨id, none, title, 0, 0, 0, none, 0, now, now⟩

/-- A session opened for a delegated tool call. -/
def task (callId parent title : String) (now : Timestamp) : Session :=
  { fresh callId title now with parent := some parent }

/-- Whether the session was opened for a delegated task. -/
def isTask (s : Session) : Bool := s.parent.isSome

/-- The title of a session that is opened without one. -/
def defaultTitle : String := "New Session"

/-- The largest counter. -/
def counterMax : Nat := UInt64.size - 1

/-- A session as JSON. -/
def toJson (s : Session) : Json := .object <|
  [("id", .string s.id)] ++ Json.given "parent_session_id" .string s.parent ++
  [("title", .string s.title), ("message_count", .nat s.messageCount),
    ("prompt_tokens", .nat s.promptTokens), ("completion_tokens", .nat s.completionTokens)] ++
  Json.given "summary_message_id" .string s.summary ++
  [("cost", .float s.cost), ("created_at", s.createdAt.toJson), ("updated_at", s.updatedAt.toJson)]

/-- Reads a session. -/
def shape : Shape Session := fun r d => do
  let fields ← d.record? ["id", "parent_session_id", "title", "message_count", "prompt_tokens",
    "completion_tokens", "summary_message_id", "cost", "created_at", "updated_at"] r
  let counter := Document.natUpTo? counterMax
  pure ⟨← fields.required? "id" Document.text?,
    ← fields.orDefault? "parent_session_id" (Document.nullable? Document.text?) none,
    ← fields.required? "title" Document.text?,
    ← fields.orDefault? "message_count" counter 0,
    ← fields.orDefault? "prompt_tokens" counter 0,
    ← fields.orDefault? "completion_tokens" counter 0,
    ← fields.orDefault? "summary_message_id" (Document.nullable? Document.text?) none,
    ← fields.orDefault? "cost" Document.float? 0,
    ← fields.required? "created_at" Timestamp.shape,
    ← fields.required? "updated_at" Timestamp.shape⟩

end Session

end AgentDesk
