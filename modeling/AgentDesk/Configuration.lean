import AgentDesk.Agent.Definition
import AgentDesk.Files
import AgentDesk.Pricing
/-!
# Configurations

A configuration says which provider and model are used, which tools may do what, where sessions are
kept, which agents there are, and what models cost. A configuration without agents has two of its
own: one that changes files and one that only reads them.

## Main definitions

* `Configuration`, `Configuration.usual` — the configuration when nothing is said.
* `Configuration.definitions` — the agents.
* `Configuration.check` — the first defect, if there is one.
* `Configuration.withEnvironment` — what the environment says goes first.
* `Configuration.keyFor?`, `Configuration.databasePath`.
-/

namespace AgentDesk

/-- What is said of a provider. -/
structure ProviderSettings where
  key : Option String
  address : Option String
  headers : Table String String
  promptPrefix : Option String
deriving Repr, BEq, DecidableEq, Inhabited

/-- What is said of the tools. The time for a command of the shell is in seconds. -/
structure ToolSettings where
  directory : Option String
  blockedCommands : List String
  shellSeconds : Nat
deriving Repr, BEq, DecidableEq, Inhabited

/-- How sessions are kept: in a database file, or only as long as the program runs. -/
inductive StoreKind where
  | database
  | memory
deriving Repr, BEq, DecidableEq, Inhabited

/-- The written name of a kind. -/
def StoreKind.name : StoreKind → String
  | .database => "sqlite"
  | .memory => "memory"

/-- What is said of the store. -/
structure StoreSettings where
  kind : StoreKind
  path : Option String
deriving Repr, BEq, DecidableEq, Inhabited

/-- What is said of an agent. Its identifier stands outside. -/
structure AgentSettings where
  name : Option String
  provider : Option String
  model : Option String
  systemPrompt : Option String
  allowedTools : Option (List String)
  allowedAgents : List String
  disabled : Bool
  maxTokens : Option Nat
deriving Repr, BEq, DecidableEq, Inhabited

/-- A configuration. The agents are in ascending order of their identifiers. -/
structure Configuration where
  key : Option String
  defaultProvider : String
  defaultModel : String
  maxTokens : Nat
  defaultAgent : String
  maxDepth : Nat
  providers : Table String ProviderSettings
  tools : ToolSettings
  store : StoreSettings
  agents : Table String AgentSettings
  prices : Table String Prices
deriving Repr, BEq, Inhabited

/-- What is wrong with a configuration. -/
inductive Defect where
  | noTokens
  | noDepth
  | noShellTime
  | delegatesToItself (agent : String)
  | delegatesToUnknown (agent peer : String)
  | noDefaultAgent (agent : String)
  | negativePrice (model : String)
deriving Repr, BEq, DecidableEq

/-- The sentence for a defect. -/
def Defect.describe : Defect → String
  | .noTokens => "max_tokens must be greater than 0"
  | .noDepth => "max_delegation_depth must be at least 1"
  | .noShellTime => "tools.bash_timeout_secs must be greater than 0"
  | .delegatesToItself agent => s!"agent '{agent}' cannot delegate to itself"
  | .delegatesToUnknown agent peer => s!"agent '{agent}' delegates to unknown agent '{peer}'"
  | .noDefaultAgent agent => s!"default_agent '{agent}' is not defined or is disabled"
  | .negativePrice model => s!"pricing for '{model}' must be non-negative"

namespace AgentSettings

/-- An agent of which nothing is said. -/
def blank : AgentSettings := ⟨none, none, none, none, none, [], false, none⟩

/-- The definition of an agent; its identifier serves as its name if it has no other. -/
def definition (id : String) (a : AgentSettings) : AgentDefinition :=
  ⟨id, a.name.getD id, a.provider, a.model, a.systemPrompt, a.allowedTools, a.allowedAgents,
    a.disabled, a.maxTokens⟩

end AgentSettings

namespace ToolSettings

/-- The settings when nothing is said. -/
def usual : ToolSettings := ⟨none, [], 60⟩

end ToolSettings

namespace Configuration

/-- The configuration when nothing is said. -/
def usual : Configuration where
  key := none
  defaultProvider := "anthropic"
  defaultModel := "claude-sonnet-4-20250514"
  maxTokens := 4096
  defaultAgent := "coder"
  maxDepth := 4
  providers := []
  tools := .usual
  store := ⟨.database, none⟩
  agents := []
  prices := []

/-! ## Agents -/

/-- The instructions of the agent that changes files. -/
def coderPrompt : String :=
  "You are a software engineering agent working in the user's repository. Use the available " ++
  "tools to inspect and change files, run commands, and verify your work. Keep answers short " ++
  "and report what you changed."

/-- The instructions of the agent that only reads. -/
def taskPrompt : String :=
  "You are a research sub-agent. Answer the delegated question using the read-only tools " ++
  "available to you, then reply with a concise, self-contained summary."

/-- The agents of a configuration that names none. -/
def ownAgents : Table String AgentSettings := [
  ("coder", { AgentSettings.blank with
    name := some "coder", systemPrompt := some coderPrompt, allowedAgents := ["task"] }),
  ("task", { AgentSettings.blank with
    name := some "task", systemPrompt := some taskPrompt
    allowedTools := some ["view", "ls", "glob", "grep", "fetch"] })]

/-- The definitions of all agents, by identifier. -/
def definitions (c : Configuration) : List AgentDefinition :=
  (if c.agents.isEmpty then ownAgents else c.agents).map fun (id, a) => a.definition id

/-! ## Checking -/

/-- What is wrong with the peers of an agent. -/
def peerDefect? (all : List AgentDefinition) (d : AgentDefinition) : Option Defect :=
  d.allowedAgents.findSome? fun peer =>
    if peer == d.id then some (.delegatesToItself d.id)
    else if all.any (·.id == peer) then none
    else some (.delegatesToUnknown d.id peer)

/-- What is wrong with the price of a model. -/
def priceDefect? (model : String) (p : Prices) : Option Defect :=
  if p.input < 0 || p.output < 0 then some (.negativePrice model) else none

/-- The first defect of a configuration. -/
def defect? (c : Configuration) : Option Defect :=
  let all := c.definitions
  if c.maxTokens = 0 then some .noTokens
  else if c.maxDepth = 0 then some .noDepth
  else if c.tools.shellSeconds = 0 then some .noShellTime
  else
    (all.findSome? (peerDefect? all)).orElse fun _ =>
      if all.any fun d => d.id == c.defaultAgent && !d.disabled then
        c.prices.findSome? fun (model, p) => priceDefect? model p
      else some (.noDefaultAgent c.defaultAgent)

/-- Refuses a configuration with a defect. -/
def check (c : Configuration) : Except Defect Unit :=
  match c.defect? with
  | some defect => .error defect
  | none => .ok ()

/-! ## The surroundings -/

/-- What the environment says goes before what the configuration says. The key of the vendor
counts only where the configuration has no key. -/
def withEnvironment (c : Configuration) (lookup : String → Option String) : Configuration :=
  { c with
    key := (lookup "TASKLOOM_API_KEY").or (c.key.or (lookup "ANTHROPIC_API_KEY"))
    defaultProvider := (lookup "TASKLOOM_PROVIDER").getD c.defaultProvider
    defaultModel := (lookup "TASKLOOM_MODEL").getD c.defaultModel }

/-- The directory that holds the configuration. -/
def directory (home : Path) : Path := home.child ".taskloom"

/-- The file that holds the configuration. -/
def file (home : Path) : Path := (directory home).child "config.toml"

/-- The path of the database. -/
def databasePath (c : Configuration) (home : Path) : String :=
  c.store.path.getD ((directory home).child "taskloom.db").text

/-- What is said of a provider. -/
def settingsOf? (c : Configuration) (provider : String) : Option ProviderSettings :=
  Table.get? provider c.providers

/-- The key for a provider: its own, else the common one. -/
def keyFor? (c : Configuration) (provider : String) : Option String :=
  ((c.settingsOf? provider).bind (·.key)).or c.key

/-- Whether there is a key for the provider that is used by default. -/
def hasKey (c : Configuration) : Bool := (c.keyFor? c.defaultProvider).isSome

end Configuration

end AgentDesk
