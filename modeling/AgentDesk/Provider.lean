import AgentDesk.Failure
import AgentDesk.Model
/-!
# Providers

A provider answers a request with a stream of events. A stream that succeeds ends with the
complete answer, which is authoritative; one that fails ends with a failure.

## Main definitions

* `ToolDefinition` — a tool as a model sees it.
* `Answer` — the summary of a completed stream.
* `StreamEvent` — one step of a stream.
* `ModelRequest` — what is asked.
-/

namespace AgentDesk

/-- A tool as a model sees it; the parameters are a JSON schema. -/
structure ToolDefinition where
  name : String
  description : String
  parameters : Json
deriving Repr, Inhabited

/-- The summary of a completed stream. -/
structure Answer where
  content : String
  toolCalls : List ToolCall
  tokens : Tokens
  reason : FinishReason
deriving Repr, BEq, DecidableEq, Inhabited

/-- One step of a stream. -/
inductive StreamEvent where
  | thinking (delta : String)
  | signature (delta : String)
  | content (delta : String)
  | toolStart (call : ToolCall)
  | toolDelta (id delta : String)
  | toolStop (id : String)
  | complete (answer : Answer)
  | failed (cause : ProviderFailure)
deriving Repr, BEq, DecidableEq, Inhabited

/-- What a model is asked. -/
structure ModelRequest where
  messages : List Message
  tools : List ToolDefinition
  systemPrompt : Option String
  maxTokens : Nat
deriving Repr, Inhabited

namespace ToolDefinition

/-- A tool definition as JSON. -/
def toJson (t : ToolDefinition) : Json := .object
  [("name", .string t.name), ("description", .string t.description), ("parameters", t.parameters)]

/-- Reads a tool definition. -/
def shape : Shape ToolDefinition := fun r d => do
  let fields ← d.record? ["name", "description", "parameters"] r
  pure ⟨← fields.required? "name" Document.text?, ← fields.required? "description" Document.text?,
    ← fields.required? "parameters" Document.any?⟩

end ToolDefinition

namespace Answer

/-- An answer as JSON. -/
def toJson (a : Answer) : Json := .object
  [("content", .string a.content), ("tool_calls", .array (a.toolCalls.map ToolCall.toJson)),
    ("usage", a.tokens.toJson), ("finish_reason", .string a.reason.name)]

/-- Reads an answer. -/
def shape : Shape Answer := fun r d => do
  let fields ← d.record? ["content", "tool_calls", "usage", "finish_reason"] r
  pure ⟨← fields.required? "content" Document.text?,
    ← fields.orDefault? "tool_calls" (Document.list? ToolCall.shape) [],
    ← fields.orDefault? "usage" Tokens.shape .zero,
    ← fields.required? "finish_reason" FinishReason.shape⟩

end Answer

end AgentDesk
