import AgentDesk.Configuration
import AgentDesk.Text.Quoted
import AgentDesk.Toml.Document
import AgentDesk.Toml.Shape
/-!
# Reading a configuration

A configuration is read from a TOML document. What the document leaves out is as in the usual
configuration, and what it says beyond the known fields is skipped.

## Main definitions

* `Configuration.shape` — reads a configuration from a document.
* `Configuration.load` — reads the file, which may be absent, and checks what it says.
* `ConfigurationFault` — why no configuration was loaded.
-/

namespace AgentDesk

/-- Why no configuration was loaded. -/
inductive ConfigurationFault where
  | unreadable (path reason : String)
  | malformed (path reason : String)
  | defective (defect : Defect)
deriving Repr, BEq, DecidableEq

namespace ConfigurationFault

/-- The sentence for a fault. -/
def describe : ConfigurationFault → String
  | .unreadable path reason => s!"Failed to read config file at {path}: {reason}"
  | .malformed path reason => s!"Failed to parse config file at {path}: {reason}"
  | .defective defect => s!"Configuration validation failed: {defect.describe}"

/-- The fault with its fields, as it is shown when a program ends with it. -/
def withFields : ConfigurationFault → String
  | .unreadable path reason =>
    s!"ReadError \x7b path: {Text.quoted path}, reason: {Text.quoted reason} \x7d"
  | .malformed path reason =>
    s!"ParseError \x7b path: {Text.quoted path}, reason: {Text.quoted reason} \x7d"
  | .defective defect => s!"ValidationError({Text.quoted defect.describe})"

end ConfigurationFault

/-- Reads what is said of a provider. -/
def ProviderSettings.shape : TomlShape ProviderSettings := fun v => do
  let fields ← v.record? ["api_key", "api_url", "extra_headers", "system_prompt_prefix"]
  pure ⟨← fields.optional? "api_key" Toml.text?, ← fields.optional? "api_url" Toml.text?,
    ← fields.orDefault? "extra_headers" (Toml.dictionary? Toml.text?) [],
    ← fields.optional? "system_prompt_prefix" Toml.text?⟩

/-- Reads what is said of the tools. -/
def ToolSettings.shape : TomlShape ToolSettings := fun v => do
  let fields ← v.record? ["working_dir", "blocked_commands", "bash_timeout_secs"]
  pure ⟨← fields.optional? "working_dir" Toml.text?,
    ← fields.orDefault? "blocked_commands" (Toml.list? Toml.text?) usual.blockedCommands,
    ← fields.orDefault? "bash_timeout_secs" (Toml.natUpTo? (UInt64.size - 1)) usual.shellSeconds⟩

/-- Reads a kind of store. -/
def StoreKind.shape : TomlShape StoreKind := fun v =>
  v.caseName?.bind fun s => [StoreKind.database, .memory].find? (·.name == s)

/-- Reads what is said of the store. -/
def StoreSettings.shape : TomlShape StoreSettings := fun v => do
  let fields ← v.record? ["backend", "path"]
  pure ⟨← fields.orDefault? "backend" StoreKind.shape .database,
    ← fields.optional? "path" Toml.text?⟩

/-- Reads what is said of an agent. -/
def AgentSettings.shape : TomlShape AgentSettings := fun v => do
  let fields ← v.record? ["name", "provider", "model", "system_prompt", "allowed_tools",
    "allowed_agents", "disabled", "max_tokens"]
  pure ⟨← fields.optional? "name" Toml.text?, ← fields.optional? "provider" Toml.text?,
    ← fields.optional? "model" Toml.text?, ← fields.optional? "system_prompt" Toml.text?,
    ← fields.optional? "allowed_tools" (Toml.list? Toml.text?),
    ← fields.orDefault? "allowed_agents" (Toml.list? Toml.text?) [],
    ← fields.orDefault? "disabled" Toml.truth? false,
    ← fields.optional? "max_tokens" (Toml.natUpTo? Model.tokenMax)⟩

/-- Reads the prices of a model; those of a cache may be absent. -/
def Prices.tomlShape : TomlShape Prices := fun v => do
  let fields ← v.record? ["input_per_m", "output_per_m", "cache_write_per_m", "cache_read_per_m"]
  pure ⟨← fields.required? "input_per_m" Toml.float?,
    ← fields.required? "output_per_m" Toml.float?,
    ← fields.orDefault? "cache_write_per_m" Toml.float? 0,
    ← fields.orDefault? "cache_read_per_m" Toml.float? 0⟩

/-- Reads the table of prices. -/
def Configuration.pricesShape : TomlShape (Table String Prices) := fun v => do
  let fields ← v.record? ["custom_pricing"]
  fields.orDefault? "custom_pricing" (Toml.dictionary? Prices.tomlShape) []

namespace Configuration

/-- Puts entries in ascending order of their names. -/
def byName (entries : Table String α) : Table String α := entries.mergeSort fun a b => a.1 ≤ b.1

/-- Reads a configuration. -/
def shape : TomlShape Configuration := fun v => do
  let fields ← v.record? ["api_key", "default_provider", "default_model", "max_tokens",
    "default_agent", "max_delegation_depth", "providers", "tools", "store", "agents", "telemetry"]
  let count := Toml.natUpTo? Model.tokenMax
  let agents ← fields.orDefault? "agents" (Toml.dictionary? AgentSettings.shape) []
  pure ⟨← fields.optional? "api_key" Toml.text?,
    ← fields.orDefault? "default_provider" Toml.text? usual.defaultProvider,
    ← fields.orDefault? "default_model" Toml.text? usual.defaultModel,
    ← fields.orDefault? "max_tokens" count usual.maxTokens,
    ← fields.orDefault? "default_agent" Toml.text? usual.defaultAgent,
    ← fields.orDefault? "max_delegation_depth" count usual.maxDepth,
    ← fields.orDefault? "providers" (Toml.dictionary? ProviderSettings.shape) [],
    ← fields.orDefault? "tools" ToolSettings.shape .usual,
    ← fields.orDefault? "store" StoreSettings.shape usual.store,
    byName agents,
    ← fields.orDefault? "telemetry" pricesShape []⟩

/-- What is said of a document that is no configuration. -/
def notUnderstood : String := "the document is not a configuration"

/-- Reads a configuration from the text of a file and checks it. -/
def ofText (path text : String) : Except ConfigurationFault Configuration :=
  match (Toml.parse? text).bind shape with
  | none => .error (.malformed path notUnderstood)
  | some c =>
    match c.defect? with
    | some defect => .error (.defective defect)
    | none => .ok c

/-- Loads the configuration from a file; without the file it is the usual one. -/
def load (files : FileTree) (path : Path) : Except ConfigurationFault Configuration :=
  if files.exists? path then
    match files.readText path with
    | .error fault => .error (.unreadable path.text fault.describe)
    | .ok text => ofText path.text text
  else .ok usual

/-- Loads the configuration of a user: the file, then the environment, then another check. -/
def loadFor (files : FileTree) (home : Path) (lookup : String → Option String) :
    Except ConfigurationFault Configuration := do
  let c := (← load files (file home)).withEnvironment lookup
  match c.defect? with
  | some defect => .error (.defective defect)
  | none => .ok c

end Configuration

end AgentDesk
