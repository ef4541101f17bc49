import AgentDesk.Store.Database
/-!
# Archived databases

A database that outlives the program is kept as one text: a JSON object with the rows of both
tables in order of insertion. A cost is kept as the 64 bits of its number, so that reading gives
back the same row.

## Main definitions

* `Database.archive` — the text of a database.
* `Database.ofArchive?` — reads it.
-/

namespace AgentDesk

/-- Reads an integer. -/
def integerShape : Shape Int := fun r d =>
  (d.any? r).bind fun
    | .int n => some n
    | _ => none

/-- The largest 64-bit word. -/
def bitsMax : Nat := UInt64.size - 1

namespace SessionRow

/-- A row as JSON. -/
def toJson (r : SessionRow) : Json := .object
  [("id", .string r.id), ("parent", .optional .string r.parent), ("title", .string r.title),
    ("prompt_tokens", .int r.promptTokens), ("completion_tokens", .int r.completionTokens),
    ("summary", .optional .string r.summary), ("cost", .nat r.cost.toBits.toNat),
    ("created_at", .string r.createdAt), ("updated_at", .string r.updatedAt)]

/-- Reads a row. -/
def shape : Shape SessionRow := fun r d => do
  let fields ← d.record? ["id", "parent", "title", "prompt_tokens", "completion_tokens", "summary",
    "cost", "created_at", "updated_at"] r
  let bits ← fields.required? "cost" (Document.natUpTo? bitsMax)
  pure ⟨← fields.required? "id" Document.text?, ← fields.optional? "parent" Document.text?,
    ← fields.required? "title" Document.text?, ← fields.required? "prompt_tokens" integerShape,
    ← fields.required? "completion_tokens" integerShape,
    ← fields.optional? "summary" Document.text?, Float.ofBits (UInt64.ofNat bits),
    ← fields.required? "created_at" Document.text?,
    ← fields.required? "updated_at" Document.text?⟩

end SessionRow

namespace MessageRow

/-- A row as JSON. -/
def toJson (r : MessageRow) : Json := .object
  [("id", .string r.id), ("session", .string r.sessionId), ("role", .string r.role),
    ("parts", .string r.parts), ("model", .optional .string r.model),
    ("provider", .optional .string r.provider), ("created_at", .string r.createdAt),
    ("updated_at", .string r.updatedAt)]

/-- Reads a row. -/
def shape : Shape MessageRow := fun r d => do
  let fields ← d.record? ["id", "session", "role", "parts", "model", "provider", "created_at",
    "updated_at"] r
  pure ⟨← fields.required? "id" Document.text?, ← fields.required? "session" Document.text?,
    ← fields.required? "role" Document.text?, ← fields.required? "parts" Document.text?,
    ← fields.optional? "model" Document.text?, ← fields.optional? "provider" Document.text?,
    ← fields.required? "created_at" Document.text?,
    ← fields.required? "updated_at" Document.text?⟩

end MessageRow

namespace Database

/-- The text of a database. -/
def archive (d : Database) : String := Json.compact <| .object
  [("sessions", .array (d.sessions.map SessionRow.toJson)),
    ("messages", .array (d.messages.map MessageRow.toJson))]

/-- Reads a database. -/
def shape : Shape Database := fun r d => do
  let fields ← d.record? ["sessions", "messages"] r
  pure ⟨← fields.required? "sessions" (Document.list? SessionRow.shape),
    ← fields.required? "messages" (Document.list? MessageRow.shape)⟩

/-- The database that a text keeps. -/
def ofArchive? (text : String) : Option Database := shape.parse? text

end Database

end AgentDesk
