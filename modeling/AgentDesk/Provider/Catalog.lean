import AgentDesk.Anthropic.Connection
import AgentDesk.Configuration
/-!
# The catalog of providers

The catalog knows which providers can be reached, what is said of each in the configuration, and
what models cost. An agent names a provider and a model, or leaves them to the configuration; the
catalog describes the model and connects to it.

## Main definitions

* `Catalog`, `Catalog.ofConfiguration`.
* `Catalog.describe` — what is known of a model.
* `Catalog.connect` — a connection to a model, or why there is none.
-/

namespace AgentDesk

/-- The configuration and the table of prices with its changes. -/
structure Catalog where
  configuration : Configuration
  prices : PriceTable

namespace Catalog

/-- Puts the prices of a configuration into a table. Numbers that cannot be prices are skipped. -/
def withPrices (table : PriceTable) (own : Table String Prices) : PriceTable :=
  own.foldl (fun table (model, p) =>
    match table.set? model p with
    | .ok table => table
    | .error _ => table) table

/-- The catalog of a configuration over a table of prices. -/
def ofConfiguration (c : Configuration) (table : PriceTable) : Catalog :=
  ⟨c, withPrices table c.prices⟩

/-- The names of the providers that can be reached. -/
def providers : List String := [Anthropic.name]

/-- What stands in front of the system prompt of every agent of a provider. -/
def promptPrefix? (k : Catalog) (provider : String) : Option String :=
  (k.configuration.settingsOf? provider).bind (·.promptPrefix)

/-- The number of tokens that a request to the Messages API may have. -/
def contextWindow : Nat := 200000

/-- How the names of the models begin that reason. -/
def reasoningModels : List String := ["claude-opus-4", "claude-sonnet-4", "claude-3-7-sonnet"]

/-- What is known of a model of a provider. -/
def describe (k : Catalog) (provider model : String) : Model :=
  let plain : Model := { Model.blank with
    id := model, name := model, provider := provider
    maxTokens := k.configuration.maxTokens }
  k.prices.priceModel <|
    if provider == Anthropic.name then
      { plain with
        contextWindow := contextWindow, takesAttachments := true
        reasons := reasoningModels.any fun start => (Text.stripPrefix? start model).isSome }
    else plain

/-- A connection with what the settings of its provider say. -/
def configured (settings : Option ProviderSettings) (c : Anthropic.Connection) :
    Anthropic.Connection :=
  match settings with
  | none => c
  | some s =>
    let c := match s.address with
      | some address => c.withAddress address
      | none => c
    { c with headers := s.headers }

/-- Connects to a model of a provider; what is not named is as in the configuration. -/
def connect (k : Catalog) (provider model : Option String) :
    Except ProviderFailure Anthropic.Connection :=
  let provider := provider.getD k.configuration.defaultProvider
  let model := model.getD k.configuration.defaultModel
  match k.configuration.keyFor? provider with
  | none => .error (.notConfigured s!"no API key configured for {provider}")
  | some key =>
    if provider == Anthropic.name then
      .ok (configured (k.configuration.settingsOf? provider)
        (.ofModel (k.describe provider model) key))
    else .error (.notConfigured s!"unsupported provider: {provider}")

/-- The definition of an agent with the system prompt that its provider wants. -/
def prepared (k : Catalog) (d : AgentDefinition) : AgentDefinition :=
  match k.promptPrefix? (d.provider.getD k.configuration.defaultProvider) with
  | none => d
  | some start => { d with
      systemPrompt := some (match d.systemPrompt with
        | some prompt => s!"{start}\n\n{prompt}"
        | none => start) }

/-- The definitions of all agents as they are used. -/
def definitions (k : Catalog) : List AgentDefinition := k.configuration.definitions.map k.prepared

end Catalog

end AgentDesk
