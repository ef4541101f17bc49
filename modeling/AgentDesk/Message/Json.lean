import AgentDesk.Message
import AgentDesk.Json.Shape
/-!
# Messages as JSON

The written form of messages and their parts, and reading them back. A part is an object whose
member `type` names its kind.

## Main definitions

* `Role.name`, `FinishReason.name` and their inverses `ofName?`.
* `Message.toJson`, `Part.toJson` and the shapes that read them.
-/

namespace AgentDesk

/-- The written name of a role. -/
def Role.name : Role → String
  | .user => "user"
  | .assistant => "assistant"
  | .system => "system"
  | .tool => "tool"

/-- The role with a written name. -/
def Role.ofName? (s : String) : Option Role :=
  [Role.user, .assistant, .system, .tool].find? (·.name == s)

/-- Why a name is not that of a role. -/
def Role.unknown (s : String) : String := "unknown role: " ++ s

/-- The written name of a finish reason. -/
def FinishReason.name : FinishReason → String
  | .endTurn => "end_turn"
  | .maxTokens => "max_tokens"
  | .toolUse => "tool_use"
  | .canceled => "canceled"
  | .error => "error"
  | .permissionDenied => "permission_denied"

/-- The finish reason with a written name. -/
def FinishReason.ofName? (s : String) : Option FinishReason :=
  [FinishReason.endTurn, .maxTokens, .toolUse, .canceled, .error, .permissionDenied].find?
    (·.name == s)

/-- Reads a role. -/
def Role.shape : Shape Role := fun r d => (d.caseName? r).bind Role.ofName?

/-- Reads a finish reason. -/
def FinishReason.shape : Shape FinishReason := fun r d =>
  (d.caseName? r).bind FinishReason.ofName?

/-- Reads a timestamp. -/
def Timestamp.shape : Shape Timestamp := fun r d => (d.text? r).bind Timestamp.parse?

/-- A timestamp as JSON. -/
def Timestamp.toJson (t : Timestamp) : Json := .string t.write

/-- The members of a tool call. -/
def ToolCall.members (c : ToolCall) : List (String × Json) :=
  [("id", .string c.id), ("name", .string c.name), ("input", .string c.input),
    ("finished", .bool c.finished)]

/-- A tool call as JSON. -/
def ToolCall.toJson (c : ToolCall) : Json := .object c.members

/-- Reads a tool call. -/
def ToolCall.shape : Shape ToolCall := fun r d => do
  let fields ← d.record? ["id", "name", "input", "finished"] r
  pure ⟨← fields.required? "id" Document.text?, ← fields.required? "name" Document.text?,
    ← fields.required? "input" Document.text?, ← fields.orDefault? "finished" Document.truth? false⟩

/-- The members of a part that follow its type. -/
def Part.members : Part → List (String × Json)
  | .text t => [("text", .string t)]
  | .reasoning r =>
    [("thinking", .string r.thinking), ("signature", .string r.signature),
      ("started_at", r.startedAt.toJson)] ++ Json.given "finished_at" Timestamp.toJson r.finishedAt
  | .toolCall c => c.members
  | .toolResult r =>
    [("tool_call_id", .string r.callId), ("name", .string r.name),
      ("content", .string r.content)] ++ Json.given "metadata" .string r.metadata ++
      [("is_error", .bool r.isError)]
  | .binary b =>
    [("path", .string b.path), ("mime_type", .string b.mimeType),
      ("data", .array (b.data.map fun x => .nat x.toNat))]
  | .finish f =>
    [("reason", .string f.reason.name), ("message", .string f.message),
      ("details", .string f.details), ("time", f.time.toJson)]

/-- The written name of the kind of a part. -/
def Part.kind : Part → String
  | .text _ => "text"
  | .reasoning _ => "reasoning"
  | .toolCall _ => "tool_call"
  | .toolResult _ => "tool_result"
  | .binary _ => "binary"
  | .finish _ => "finish"

/-- A part as JSON. -/
def Part.toJson (p : Part) : Json := .object (("type", .string p.kind) :: p.members)

/-- Reads reasoning. -/
def Reasoning.shape : Shape Reasoning := fun r d => do
  let fields ← d.record? ["thinking", "signature", "started_at", "finished_at"] r
  pure ⟨← fields.required? "thinking" Document.text?,
    ← fields.orDefault? "signature" Document.text? "",
    ← fields.required? "started_at" Timestamp.shape,
    ← fields.orDefault? "finished_at" (Document.nullable? Timestamp.shape) none⟩

/-- Reads a tool result. -/
def ToolResult.shape : Shape ToolResult := fun r d => do
  let fields ← d.record? ["tool_call_id", "name", "content", "metadata", "is_error"] r
  pure ⟨← fields.required? "tool_call_id" Document.text?,
    ← fields.orDefault? "name" Document.text? "",
    ← fields.required? "content" Document.text?,
    ← fields.orDefault? "metadata" (Document.nullable? Document.text?) none,
    ← fields.orDefault? "is_error" Document.truth? false⟩

/-- Reads a byte. -/
def byteShape : Shape UInt8 := fun r d => (d.natUpTo? 255 r).map UInt8.ofNat

/-- Reads a file. -/
def Binary.shape : Shape Binary := fun r d => do
  let fields ← d.record? ["path", "mime_type", "data"] r
  pure ⟨← fields.required? "path" Document.text?, ← fields.required? "mime_type" Document.text?,
    ← fields.required? "data" (Document.list? byteShape)⟩

/-- Reads a finish part. -/
def Finish.shape : Shape Finish := fun r d => do
  let fields ← d.record? ["reason", "message", "details", "time"] r
  pure ⟨← fields.required? "reason" FinishReason.shape,
    ← fields.orDefault? "message" Document.text? "",
    ← fields.orDefault? "details" Document.text? "",
    ← fields.required? "time" Timestamp.shape⟩

/-- Reads a text part. -/
def Part.textShape : Shape Part := fun r d => do
  let fields ← d.record? ["text"] r
  pure (.text (← fields.required? "text" Document.text?))

/-- Reads a part. -/
def Part.shape : Shape Part := fun r d => do
  let (kind, r, d) ← d.tagged? "type" r
  match kind with
  | "text" => Part.textShape r d
  | "reasoning" => (Reasoning.shape r d).map .reasoning
  | "tool_call" => (ToolCall.shape r d).map .toolCall
  | "tool_result" => (ToolResult.shape r d).map .toolResult
  | "binary" => (Binary.shape r d).map .binary
  | "finish" => (Finish.shape r d).map .finish
  | _ => none

/-- The parts of a message as JSON. -/
def partsToJson (parts : List Part) : Json := .array (parts.map Part.toJson)

/-- A message as JSON. -/
def Message.toJson (m : Message) : Json := .object <|
  [("id", .string m.id), ("session_id", .string m.sessionId), ("role", .string m.role.name),
    ("parts", partsToJson m.parts)] ++
  Json.given "model" .string m.model ++ Json.given "provider" .string m.provider ++
  [("created_at", m.createdAt.toJson), ("updated_at", m.updatedAt.toJson)]

/-- Reads a message. -/
def Message.shape : Shape Message := fun r d => do
  let fields ← d.record?
    ["id", "session_id", "role", "parts", "model", "provider", "created_at", "updated_at"] r
  pure ⟨← fields.required? "id" Document.text?, ← fields.required? "session_id" Document.text?,
    ← fields.required? "role" Role.shape,
    ← fields.orDefault? "parts" (Document.list? Part.shape) [],
    ← fields.orDefault? "model" (Document.nullable? Document.text?) none,
    ← fields.orDefault? "provider" (Document.nullable? Document.text?) none,
    ← fields.required? "created_at" Timestamp.shape,
    ← fields.required? "updated_at" Timestamp.shape⟩

end AgentDesk
