import AgentDesk.Agent.Definition
import AgentDesk.Agent.Delegation
import AgentDesk.Agent.Tool
import AgentDesk.Table
/-!
# The roster of agents

The roster holds the agents that were built from definitions. Agents are built in two passes: first
every enabled agent with the tools that it is allowed, then once more those that may delegate,
with one tool for each peer. The tools reach the agents of the first pass, which have no such tools
themselves, so one pass suffices.

## Main definitions

* `Agent` — an agent that was built.
* `Roster`, `Roster.build`.
-/

namespace AgentDesk

/-- An agent. The number names its provider. -/
structure Agent where
  id : String
  name : String
  provider : Nat
  model : Model
  tools : ToolBox ToolBody
  systemPrompt : Option String
  maxTokens : Nat

/-- The provider of an agent and the model that it talks to. -/
structure Line where
  provider : Nat
  model : Model

/-- The agents in the order in which they were built, where each identifier leads, and the limit of
nested delegations. -/
structure Roster where
  agents : List Agent
  directory : Table String PostId
  maxDepth : Nat

namespace Agent

/-- The number of tokens in an answer unless something else is said. -/
def usualTokens : Nat := 4096

/-- The number of tokens that an answer may have: as the definition says, else as the model says. -/
def tokensFor (definition : AgentDefinition) (model : Model) : Nat :=
  definition.maxTokens.getD
    (if model.maxTokens > 0 then model.maxTokens else usualTokens)

/-- The tools of an agent: what it is allowed of the common tools, and those that delegate. -/
def toolsFor (definition : AgentDefinition) (base : ToolBox ToolBody)
    (peers : List (String × PostId)) : ToolBox ToolBody :=
  let own := match definition.allowedTools with
    | some allowed => base.only allowed
    | none => base
  peers.foldl (fun box (id, post) => box.register (Delegation.info id) (.delegate post id)) own

/-- Builds an agent. -/
def build (definition : AgentDefinition) (line : Line) (base : ToolBox ToolBody)
    (peers : List (String × PostId)) : Agent where
  id := definition.id
  name := definition.displayName
  provider := line.provider
  model := line.model
  tools := toolsFor definition base peers
  systemPrompt := definition.systemPrompt
  maxTokens := tokensFor definition line.model

end Agent

namespace Roster

/-- The roster without agents. -/
def empty (maxDepth : Nat) : Roster := ⟨[], [], maxDepth⟩

/-- Adds an agent; its identifier leads to it from now on. -/
def add (r : Roster) (agent : Agent) : Roster :=
  { r with
    agents := r.agents ++ [agent]
    directory := Table.put agent.id r.agents.length r.directory }

/-- Where an identifier leads. -/
def find? (r : Roster) (id : String) : Option PostId := Table.get? id r.directory

/-- The identifiers in order. -/
def ids (r : Roster) : List String := (Table.keys r.directory).mergeSort (fun a b => a ≤ b)

/-- The first pass: every enabled agent without tools that delegate. -/
def firstPass (resolve : AgentDefinition → Except ProviderFailure Line) (base : ToolBox ToolBody) :
    List AgentDefinition → Roster → Except TurnFailure Roster
  | [], r => .ok r
  | d :: rest, r =>
    match resolve d with
    | .error cause => .error (.provider cause)
    | .ok line => firstPass resolve base rest (r.add (Agent.build d line base []))

/-- The peers of an agent that are on the roster. -/
def peersOf (first : Roster) (definition : AgentDefinition) : List (String × PostId) :=
  definition.allowedAgents.filterMap fun id => (first.find? id).map (id, ·)

/-- Builds an agent once more if it has peers; provider and model stay as they are. -/
def rebuild (first : Roster) (base : ToolBox ToolBody) (r : Roster) (definition : AgentDefinition) :
    Roster :=
  match peersOf first definition, (first.find? definition.id).bind (first.agents[·]?) with
  | [], _ => r
  | _, none => r
  | peers, some earlier =>
    r.add (Agent.build definition ⟨earlier.provider, earlier.model⟩ base peers)

/-- Builds all enabled agents. -/
def build (definitions : List AgentDefinition)
    (resolve : AgentDefinition → Except ProviderFailure Line) (base : ToolBox ToolBody)
    (maxDepth : Nat) : Except TurnFailure Roster :=
  let enabled := definitions.filter fun d => !d.disabled
  match firstPass resolve base enabled (empty maxDepth) with
  | .error cause => .error cause
  | .ok first => .ok (enabled.foldl (rebuild first base) first)

/-- The text that shows a roster. -/
def describe (r : Roster) : String :=
  s!"AgentManager \x7b agents: {Text.quotedList r.ids}, max_delegation_depth: {r.maxDepth} \x7d"

end Roster

end AgentDesk
