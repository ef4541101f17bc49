import AgentDesk.Session
/-!
# Models and token usage

What is known of a language model: its names, its prices per million tokens, its limits, and what
it can do. A completed answer reports how many tokens of each kind it used.

## Main definitions

* `Model` — the description of a model.
* `Tokens` — the four counts of an answer.
-/

namespace AgentDesk

/-- The description of a model. Prices are in US dollars per million tokens. -/
structure Model where
  id : String
  name : String
  provider : String
  inputPrice : Float
  outputPrice : Float
  cacheWritePrice : Float
  cacheReadPrice : Float
  contextWindow : Nat
  maxTokens : Nat
  takesAttachments : Bool
  reasons : Bool
deriving Repr, BEq, Inhabited

/-- The tokens that one answer used. -/
structure Tokens where
  input : Nat
  output : Nat
  cacheWrite : Nat
  cacheRead : Nat
deriving Repr, BEq, DecidableEq, Inhabited

namespace Tokens

/-- No tokens at all. -/
def zero : Tokens := ⟨0, 0, 0, 0⟩

/-- The sum of the four counts. -/
def total (t : Tokens) : Nat := t.input + t.output + t.cacheWrite + t.cacheRead

/-- The counts as JSON. -/
def toJson (t : Tokens) : Json := .object
  [("input_tokens", .nat t.input), ("output_tokens", .nat t.output),
    ("cache_creation_tokens", .nat t.cacheWrite), ("cache_read_tokens", .nat t.cacheRead)]

/-- Reads the counts. -/
def shape : Shape Tokens := fun r d => do
  let fields ← d.record?
    ["input_tokens", "output_tokens", "cache_creation_tokens", "cache_read_tokens"] r
  let counter := Document.natUpTo? Session.counterMax
  pure ⟨← fields.required? "input_tokens" counter, ← fields.required? "output_tokens" counter,
    ← fields.required? "cache_creation_tokens" counter,
    ← fields.required? "cache_read_tokens" counter⟩

end Tokens

namespace Model

/-- A model of which nothing is known. -/
def blank : Model := ⟨"", "", "", 0, 0, 0, 0, 0, 0, false, false⟩

/-- The largest number of tokens that can be asked for. -/
def tokenMax : Nat := UInt32.size - 1

/-- A model as JSON. -/
def toJson (m : Model) : Json := .object
  [("id", .string m.id), ("name", .string m.name), ("provider", .string m.provider),
    ("cost_per_1m_in", .float m.inputPrice), ("cost_per_1m_out", .float m.outputPrice),
    ("cost_per_1m_in_cached", .float m.cacheWritePrice),
    ("cost_per_1m_out_cached", .float m.cacheReadPrice),
    ("context_window", .nat m.contextWindow), ("default_max_tokens", .nat m.maxTokens),
    ("supports_attachments", .bool m.takesAttachments), ("can_reason", .bool m.reasons)]

/-- Reads a model. -/
def shape : Shape Model := fun r d => do
  let fields ← d.record? ["id", "name", "provider", "cost_per_1m_in", "cost_per_1m_out",
    "cost_per_1m_in_cached", "cost_per_1m_out_cached", "context_window", "default_max_tokens",
    "supports_attachments", "can_reason"] r
  pure ⟨← fields.required? "id" Document.text?, ← fields.required? "name" Document.text?,
    ← fields.required? "provider" Document.text?,
    ← fields.required? "cost_per_1m_in" Document.float?,
    ← fields.required? "cost_per_1m_out" Document.float?,
    ← fields.required? "cost_per_1m_in_cached" Document.float?,
    ← fields.required? "cost_per_1m_out_cached" Document.float?,
    ← fields.required? "context_window" (Document.natUpTo? Session.counterMax),
    ← fields.required? "default_max_tokens" (Document.natUpTo? tokenMax),
    ← fields.orDefault? "supports_attachments" Document.truth? false,
    ← fields.orDefault? "can_reason" Document.truth? false⟩

end Model

end AgentDesk
