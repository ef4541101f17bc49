import AgentDesk.Model
/-!
# Agent definitions

The description of an agent as it stands in a configuration: which model it talks to, how it is
instructed, which tools it may use and to which other agents it may delegate.

## Main definitions

* `AgentDefinition`, `AgentDefinition.displayName`, `AgentDefinition.toJson`,
  `AgentDefinition.shape`.
* `AgentState` — whether any session of an agent is busy.
-/

namespace AgentDesk

/-- The description of an agent. Absent tools mean all tools. -/
structure AgentDefinition where
  id : String
  name : String
  provider : Option String
  model : Option String
  systemPrompt : Option String
  allowedTools : Option (List String)
  allowedAgents : List String
  disabled : Bool
  maxTokens : Option Nat
deriving Repr, BEq, DecidableEq, Inhabited

/-- Whether any session of an agent has a turn running. -/
inductive AgentState where
  | idle
  | processing
deriving Repr, BEq, DecidableEq, Inhabited

/-- The written name of a state. -/
def AgentState.name : AgentState → String
  | .idle => "idle"
  | .processing => "processing"

/-- Reads a state. -/
def AgentState.shape : Shape AgentState := fun r d =>
  (d.caseName? r).bind fun s => [AgentState.idle, .processing].find? (·.name == s)

namespace AgentDefinition

/-- The name to show: the identifier if no name is given. -/
def displayName (a : AgentDefinition) : String := if a.name.isEmpty then a.id else a.name

/-- An agent definition as JSON. -/
def toJson (a : AgentDefinition) : Json := .object <|
  [("id", .string a.id), ("name", .string a.name)] ++ Json.given "provider" .string a.provider ++
  Json.given "model" .string a.model ++ Json.given "system_prompt" .string a.systemPrompt ++
  Json.given "allowed_tools" Json.strings a.allowedTools ++
  (if a.allowedAgents.isEmpty then [] else [("allowed_agents", Json.strings a.allowedAgents)]) ++
  [("disabled", .bool a.disabled)] ++ Json.given "max_tokens" .nat a.maxTokens

/-- Reads an agent definition. -/
def shape : Shape AgentDefinition := fun r d => do
  let fields ← d.record? ["id", "name", "provider", "model", "system_prompt", "allowed_tools",
    "allowed_agents", "disabled", "max_tokens"] r
  let text? := Document.nullable? Document.text?
  pure ⟨← fields.required? "id" Document.text?, ← fields.orDefault? "name" Document.text? "",
    ← fields.orDefault? "provider" text? none, ← fields.orDefault? "model" text? none,
    ← fields.orDefault? "system_prompt" text? none,
    ← fields.orDefault? "allowed_tools" (Document.nullable? (Document.list? Document.text?)) none,
    ← fields.orDefault? "allowed_agents" (Document.list? Document.text?) [],
    ← fields.orDefault? "disabled" Document.truth? false,
    ← fields.orDefault? "max_tokens" (Document.nullable? (Document.natUpTo? Model.tokenMax)) none⟩

end AgentDefinition

end AgentDesk
