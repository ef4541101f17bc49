import AgentDesk.Configuration
import AgentDesk.Text.Quoted
import AgentDesk.Toml.Printing
/-!
# Writing a configuration

A configuration is written as a TOML document or as JSON, with what is not said left out. For
a log it is shown with its keys hidden.

## Main definitions

* `Configuration.toToml`, `Configuration.starter` — the document that a new user gets.
* `Configuration.toJson`.
* `Configuration.redacted` — the text in which keys are hidden.
-/

namespace AgentDesk

/-! ## As a document -/

namespace Toml

/-- An entry that is left out when there is nothing to say. -/
def given (name : String) (f : α → Toml) : Option α → List (String × Toml)
  | none => []
  | some a => [(name, f a)]

/-- A list of strings. -/
def texts (xs : List String) : Toml := .array (xs.map .text)

/-- A natural number. -/
def nat (n : Nat) : Toml := .integer n

end Toml

/-- What is said of a provider, as a table. -/
def ProviderSettings.toToml (p : ProviderSettings) : Toml := .table <|
  Toml.given "api_key" .text p.key ++ Toml.given "api_url" .text p.address ++
  (if p.headers.isEmpty then []
    else [("extra_headers", .table (p.headers.map fun (n, v) => (n, .text v)))]) ++
  Toml.given "system_prompt_prefix" .text p.promptPrefix

/-- What is said of the tools, as a table. -/
def ToolSettings.toToml (t : ToolSettings) : Toml := .table <|
  Toml.given "working_dir" .text t.directory ++
  [("blocked_commands", Toml.texts t.blockedCommands),
    ("bash_timeout_secs", Toml.nat t.shellSeconds)]

/-- What is said of the store, as a table. -/
def StoreSettings.toToml (s : StoreSettings) : Toml := .table <|
  ("backend", .text s.kind.name) :: Toml.given "path" .text s.path

/-- What is said of an agent, as a table. -/
def AgentSettings.toToml (a : AgentSettings) : Toml := .table <|
  Toml.given "name" .text a.name ++ Toml.given "provider" .text a.provider ++
  Toml.given "model" .text a.model ++ Toml.given "system_prompt" .text a.systemPrompt ++
  Toml.given "allowed_tools" Toml.texts a.allowedTools ++
  (if a.allowedAgents.isEmpty then [] else [("allowed_agents", Toml.texts a.allowedAgents)]) ++
  [("disabled", .truth a.disabled)] ++ Toml.given "max_tokens" Toml.nat a.maxTokens

/-- Prices as a table. -/
def Prices.toToml (p : Prices) : Toml := .table
  [("input_per_m", .float p.input), ("output_per_m", .float p.output),
    ("cache_write_per_m", .float p.cacheWrite), ("cache_read_per_m", .float p.cacheRead)]

namespace Configuration

/-- A configuration as the entries of a document. -/
def toToml (c : Configuration) : List (String × Toml) :=
  Toml.given "api_key" .text c.key ++
  [("default_provider", .text c.defaultProvider), ("default_model", .text c.defaultModel),
    ("max_tokens", Toml.nat c.maxTokens), ("default_agent", .text c.defaultAgent),
    ("max_delegation_depth", Toml.nat c.maxDepth),
    ("providers", .table (c.providers.map fun (n, p) => (n, p.toToml))),
    ("tools", c.tools.toToml), ("store", c.store.toToml),
    ("agents", .table (c.agents.map fun (n, a) => (n, a.toToml))),
    ("telemetry", .table
      [("custom_pricing", .table (c.prices.map fun (n, p) => (n, p.toToml)))])]

/-- The document that a new user gets: the usual configuration with its own agents written out. -/
def starter : String := Toml.document { usual with agents := ownAgents }.toToml

end Configuration

/-! ## As JSON -/

/-- What is said of a provider, as JSON. -/
def ProviderSettings.toJson (p : ProviderSettings) : Json := .object <|
  Json.given "api_key" .string p.key ++ Json.given "api_url" .string p.address ++
  (if p.headers.isEmpty then []
    else [("extra_headers", .object (p.headers.map fun (n, v) => (n, .string v)))]) ++
  Json.given "system_prompt_prefix" .string p.promptPrefix

/-- What is said of the tools, as JSON. -/
def ToolSettings.toJson (t : ToolSettings) : Json := .object <|
  Json.given "working_dir" .string t.directory ++
  [("blocked_commands", Json.strings t.blockedCommands), ("bash_timeout_secs", .nat t.shellSeconds)]

/-- What is said of the store, as JSON. -/
def StoreSettings.toJson (s : StoreSettings) : Json := .object <|
  ("backend", .string s.kind.name) :: Json.given "path" .string s.path

/-- What is said of an agent, as JSON. -/
def AgentSettings.toJson (a : AgentSettings) : Json := .object <|
  Json.given "name" .string a.name ++ Json.given "provider" .string a.provider ++
  Json.given "model" .string a.model ++ Json.given "system_prompt" .string a.systemPrompt ++
  Json.given "allowed_tools" Json.strings a.allowedTools ++
  (if a.allowedAgents.isEmpty then [] else [("allowed_agents", Json.strings a.allowedAgents)]) ++
  [("disabled", .bool a.disabled)] ++ Json.given "max_tokens" .nat a.maxTokens

/-- A configuration as JSON. -/
def Configuration.toJson (c : Configuration) : Json := .object <|
  Json.given "api_key" .string c.key ++
  [("default_provider", .string c.defaultProvider), ("default_model", .string c.defaultModel),
    ("max_tokens", .nat c.maxTokens), ("default_agent", .string c.defaultAgent),
    ("max_delegation_depth", .nat c.maxDepth),
    ("providers", .object (c.providers.map fun (n, p) => (n, p.toJson))),
    ("tools", c.tools.toJson), ("store", c.store.toJson),
    ("agents", .object (c.agents.map fun (n, a) => (n, a.toJson))),
    ("telemetry", .object
      [("custom_pricing", .object (c.prices.map fun (n, p) => (n, p.toJson)))])]

/-! ## With keys hidden -/

namespace Redacted

/-- What is shown in place of a key. -/
def mark : String := "[REDACTED]"

/-- A key, or that there is none. -/
def key : Option String → String
  | some _ => Text.quoted mark
  | none => Text.quoted "None"

/-- A value that may be absent. -/
def optional (f : α → String) : Option α → String
  | some a => s!"Some({f a})"
  | none => "None"

/-- A text that may be absent. -/
def text : Option String → String := optional Text.quoted

/-- A record with its fields. -/
def fields (name : String) (cells : List (String × String)) : String :=
  let inside := Text.join ", " (cells.map fun (n, v) => s!"{n}: {v}")
  s!"{name} \x7b {inside} \x7d"

/-- A dictionary. -/
def dictionary (f : α → String) (entries : Table String α) : String :=
  let inside := Text.join ", " (entries.map fun (n, v) => s!"{Text.quoted n}: {f v}")
  s!"\x7b{inside}\x7d"

/-- A provider. The values of its headers are not shown. -/
def provider (p : ProviderSettings) : String := fields "ProviderConfig"
  [("api_key", key p.key), ("api_url", text p.address),
    ("extra_headers", Text.quotedList (Table.keys p.headers)),
    ("system_prompt_prefix", text p.promptPrefix)]

/-- The tools. -/
def tools (t : ToolSettings) : String := fields "ToolsConfig"
  [("working_dir", text t.directory), ("blocked_commands", Text.quotedList t.blockedCommands),
    ("bash_timeout_secs", toString t.shellSeconds)]

/-- The store. -/
def store (s : StoreSettings) : String := fields "StoreConfig"
  [("backend", match s.kind with
      | .database => "Sqlite"
      | .memory => "Memory"), ("path", text s.path)]

/-- An agent. -/
def agent (a : AgentSettings) : String := fields "AgentConfig"
  [("name", text a.name), ("provider", text a.provider), ("model", text a.model),
    ("system_prompt", text a.systemPrompt),
    ("allowed_tools", optional Text.quotedList a.allowedTools),
    ("allowed_agents", Text.quotedList a.allowedAgents), ("disabled", toString a.disabled),
    ("max_tokens", optional toString a.maxTokens)]

/-- The prices of a model. -/
def prices (p : Prices) : String := fields "PricingOverrideConfig"
  [("input_per_m", Toml.writtenFloat p.input), ("output_per_m", Toml.writtenFloat p.output),
    ("cache_write_per_m", Toml.writtenFloat p.cacheWrite),
    ("cache_read_per_m", Toml.writtenFloat p.cacheRead)]

end Redacted

/-- The text that shows a configuration without its keys. -/
def Configuration.redacted (c : Configuration) : String := Redacted.fields "AppConfig"
  [("api_key", Redacted.key c.key), ("default_provider", Text.quoted c.defaultProvider),
    ("default_model", Text.quoted c.defaultModel), ("max_tokens", toString c.maxTokens),
    ("default_agent", Text.quoted c.defaultAgent),
    ("max_delegation_depth", toString c.maxDepth),
    ("providers", Redacted.dictionary Redacted.provider c.providers),
    ("tools", Redacted.tools c.tools), ("store", Redacted.store c.store),
    ("agents", Redacted.dictionary Redacted.agent c.agents),
    ("telemetry", Redacted.fields "TelemetryConfig"
      [("custom_pricing", Redacted.dictionary Redacted.prices c.prices)])]

end AgentDesk
