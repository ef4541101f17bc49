import AgentDesk.Provider.Catalog
import AgentDesk.Workbench
/-!
# Reports

What the program prints about agents, tools, prices, sessions and messages.

## Main definitions

* `Report.agents`, `Report.tools`, `Report.prices`.
* `Report.sessions`, `Report.history`, `Report.closing`.
-/

namespace AgentDesk.Report

/-- A text of lines, each with its end. -/
def ofLines (lines : List String) : String := Text.join "" (lines.map fun l => s!"{l}\n")

/-- A line across so many columns. -/
def rule (width : Nat) : String := String.ofList (List.replicate width '─')

/-- A text of at most so many characters; the last one tells that something is missing. -/
def shortened (limit : Nat) (text : String) : String :=
  match Text.firstChars? limit text with
  | none => text
  | some _ => String.ofList (text.toList.take (limit - 1)) ++ "…"

/-! ## Agents, tools and prices -/

/-- The lines about an agent. -/
def agentLines (k : Catalog) (d : AgentDefinition) : List String :=
  let provider := d.provider.getD k.configuration.defaultProvider
  let model := d.model.getD k.configuration.defaultModel
  let known := k.describe provider model
  let status := if d.disabled then " (disabled)" else ""
  let input := Decimal.fixedText 2 known.inputPrice
  let output := Decimal.fixedText 2 known.outputPrice
  let tools := match d.allowedTools with
    | some names => Text.join ", " names
    | none => "all"
  let peers := Text.join ", " d.allowedAgents
  [s!"  {d.id} ({d.displayName}){status}",
    s!"    model:  {provider}/{model}  (${input} in / ${output} out per 1M)",
    s!"    tools:  {tools}"] ++
  (if d.allowedAgents.isEmpty then [] else [s!"    agents: {peers}"]) ++ [""]

/-- The report about the agents of a catalog. -/
def agents (k : Catalog) : String := ofLines <|
  [s!"Agents (default: {k.configuration.defaultAgent})", rule 53] ++
  k.configuration.definitions.flatMap (agentLines k)

/-- The line about a tool. -/
def toolLine (t : ToolDefinition) : String :=
  let summary := (Text.lines t.description).headD ""
  s!"  {Text.padRight 10 t.name} {summary}"

/-- The report about the tools of a workbench. -/
def tools : String := ofLines <|
  ["Built-in tools", rule 53] ++ Workbench.tools.definitions.map toolLine ++
  ["", "  Agents also get an `agent_<id>` tool for each peer in `allowed_agents`."]

/-- A price with three places in a column. -/
def priceCell (width : Nat) (x : Float) : String :=
  let text := Text.padLeft width (Decimal.fixedText 3 x)
  s!"${text}"

/-- The line about the prices of a model. -/
def priceLine (name : String) (p : Prices) : String := Text.join " "
  [Text.padRight 36 name, priceCell 8 p.input, priceCell 8 p.output, priceCell 10 p.cacheWrite,
    priceCell 9 p.cacheRead]

/-- The report about a table of prices. -/
def prices (table : PriceTable) : String :=
  let header := Text.join " " [Text.padRight 36 "Model", Text.padLeft 9 "Input",
    Text.padLeft 9 "Output", Text.padLeft 11 "Cache write", Text.padLeft 10 "Cache read"]
  ofLines <|
    ["Model Pricing (USD per 1M tokens)", rule 77, header] ++
    table.models.filterMap (fun name => (table.get? name).map (priceLine name)) ++
    ["", s!"  {table.models.length} models with pricing data"]

/-! ## Sessions -/

/-- What a session has used. -/
def usageOf (s : Session) : String :=
  let cost := Decimal.fixedText 4 s.cost
  s!"{s.promptTokens} prompt / {s.completionTokens} completion tokens, ${cost}"

/-- The line about a session. -/
def sessionLine (s : Session) : String :=
  let marker := if s.isTask then "↳ " else ""
  let cost := Text.padLeft 9 (Decimal.fixedText 4 s.cost)
  Text.join " " [Text.padRight 38 s!"{marker}{s.id}", Text.padRight 24 (shortened 24 s.title),
    Text.padLeft 6 (toString s.messageCount), Text.padLeft 10 (toString s.promptTokens),
    Text.padLeft 10 (toString s.completionTokens), s!"${cost}"]

/-- The report about sessions. -/
def sessions (all : List Session) : String :=
  if all.isEmpty then ofLines ["No sessions yet. Start one with `taskloom chat`."]
  else
    let header := Text.join " " [Text.padRight 38 "Session", Text.padRight 24 "Title",
      Text.padLeft 6 "Msgs", Text.padLeft 10 "Prompt", Text.padLeft 10 "Compl.",
      Text.padLeft 10 "Cost"]
    ofLines <|
      [header, rule 103] ++ all.map sessionLine ++ ["", s!"  {all.length} sessions"]

/-- Who speaks in a message. -/
def label : Role → String
  | .user => "You"
  | .assistant => "Assistant"
  | .system => "System"
  | .tool => "Tool"

/-- The line about the end of a message, if it is worth one. -/
def endLine? : FinishReason → Option String
  | .endTurn | .toolUse => none
  | .maxTokens => some "  (MaxTokens)"
  | .canceled => some "  (Canceled)"
  | .error => some "  (Error)"
  | .permissionDenied => some "  (PermissionDenied)"

/-- The text about a tool result. -/
def resultText (r : ToolResult) : String :=
  let status := if r.isError then "error" else "ok"
  let first := shortened 100 ((Text.lines r.content).headD "")
  s!"[{status} {r.callId}] {first}"

/-- The lines about a message. -/
def messageLines (m : Message) : List String :=
  let said := Text.lines m.content ++
    m.toolCalls.map (fun c => s!"[call {c.id}] {c.name}({c.input})") ++
    m.toolResults.map resultText
  said.map (fun text => s!"  {label m.role} > {text}") ++
  ((m.finishReason?.bind endLine?).map ([·])).getD []

/-- The report about a session with its messages. -/
def history (s : Session) (messages : List Message) : String := ofLines <|
  [s!"Session {s.id} ({s.title})"] ++
  (s.parent.map fun parent => [s!"  Delegated from {parent}"]).getD [] ++
  [s!"  {usageOf s}", ""] ++ messages.flatMap fun m => messageLines m ++ [""]

/-- What is said of a session at the end of a chat. -/
def closing (s : Session) : String := ofLines [s!"  Session {s.id}: {usageOf s}", ""]

end AgentDesk.Report
