import AgentDesk.Anthropic.Conversation
import AgentDesk.Anthropic.Stream
import AgentDesk.Network
/-!
# Connections to the Messages API

A connection asks one model. A request that finds the service busy is sent again, up to a limit;
every other reply that is not an answer is a failure.

## Main definitions

* `Anthropic.Connection`, `Anthropic.Connection.body` — the request as it is sent.
* `Anthropic.Connection.ask` — the events of an answer, or why there is none.
-/

namespace AgentDesk.Anthropic

/-- A connection. With a budget for thinking a model that reasons is asked to think. -/
structure Connection where
  key : String
  address : String
  headers : Table String String
  model : Model
  thinkingBudget : Option Nat
deriving Repr, BEq, Inhabited

/-- The name of the provider. -/
def name : String := "anthropic"

/-- The address of the service. -/
def usualAddress : String := "https://api.anthropic.com"

/-- The version of the API. -/
def version : String := "2023-06-01"

/-- How often a request is sent again to a busy service. -/
def retryLimit : Nat := 2

namespace Connection

/-- A connection to the usual address. -/
def ofModel (model : Model) (key : String) : Connection := ⟨key, usualAddress, [], model, none⟩

/-- The same connection to another address; slashes at its end do not count. -/
def withAddress (address : String) (c : Connection) : Connection :=
  { c with address := Text.trimEndChar '/' address }

/-! ## Requests -/

/-- A tool as the API sees it. -/
def toolJson (t : ToolDefinition) : Json := Json.sorted
  [("name", .string t.name), ("description", .string t.description),
    ("input_schema", t.parameters)]

/-- The system prompt, which the service may keep for later requests. -/
def systemJson (text : String) : Json := .array [Json.sorted
  [("type", .string "text"), ("text", .string text),
    ("cache_control", .object [("type", .string "ephemeral")])]]

/-- The number of tokens that are asked for. -/
def tokensFor (c : Connection) (r : ModelRequest) : Nat :=
  if r.maxTokens > 0 then r.maxTokens else max c.model.maxTokens 1

/-- The system prompt of a request, unless it is empty. -/
def systemMember (r : ModelRequest) : List (String × Json) :=
  match r.systemPrompt with
  | some text => if text.isEmpty then [] else [("system", systemJson text)]
  | none => []

/-- The budget for thinking, if the model reasons. -/
def thinkingMember (c : Connection) : List (String × Json) :=
  match c.thinkingBudget with
  | some budget =>
    if c.model.reasons then
      [("thinking", Json.sorted [("type", .string "enabled"), ("budget_tokens", .nat budget)])]
    else []
  | none => []

/-- A request as JSON. -/
def body (c : Connection) (r : ModelRequest) : Json := Json.sorted <|
  [("model", .string c.model.id),
    ("messages", .array ((conversation r.messages).map Entry.toJson)),
    ("max_tokens", .nat (c.tokensFor r)), ("stream", .bool true)] ++
  systemMember r ++
  (if r.tools.isEmpty then [] else [("tools", .array (r.tools.map toolJson))]) ++
  c.thinkingMember

/-- The headers of a request. -/
def requestHeaders (c : Connection) : List (String × String) :=
  [("x-api-key", c.key), ("anthropic-version", version), ("content-type", "application/json"),
    ("accept", "text/event-stream")] ++ c.headers

/-- A request as it is sent. -/
def request (c : Connection) (r : ModelRequest) : HttpRequest :=
  ⟨"POST", s!"{c.address}/v1/messages", c.requestHeaders, (c.body r).compact⟩

/-! ## Replies -/

/-- Whether a status tells that the service is busy. -/
def isBusy (status : Nat) : Bool := status == 429 || status == 529

/-- The number of seconds to wait when the service does not say. -/
def usualWait : Nat := 5

/-- The number of seconds that a reply asks to wait. -/
def waitOf (reply : HttpReply) : Nat :=
  match reply.header? "retry-after" with
  | some text =>
    match (Text.stripPrefix? "+" text).getD text |>.toNat? with
    | some n =>
      if text.toList.all (fun c => c.isDigit || c == '+') && n < UInt64.size then n else usualWait
    | none => usualWait
  | none => usualWait

/-- The text of a reply; a body that is cut off counts as empty. -/
def textOf (reply : HttpReply) : String :=
  if reply.complete then Text.decodeLossy reply.body.toList else ""

/-- The failure that a reply stands for. -/
def failureOf (c : Connection) (reply : HttpReply) : ProviderFailure :=
  if reply.status = 429 then .rateLimited (waitOf reply)
  else if reply.status = 401 ∨ reply.status = 403 then .authentication "Invalid Anthropic API key"
  else if reply.status = 404 then .modelNotFound c.model.id
  else .api reply.status (textOf reply)

/-- Sends a request, and sends it again as long as the service is busy. -/
def send (c : Connection) (request : HttpRequest) :
    Nat → Network → Except ProviderFailure HttpReply × Network
  | retries, net =>
    match net.send request with
    | (.error reason, net) => (.error (.network reason), net)
    | (.ok reply, net) =>
      if reply.status = 200 then (.ok reply, net)
      else
        match retries with
        | 0 => (.error (c.failureOf reply), net)
        | n + 1 =>
          if isBusy reply.status then c.send request n net else (.error (c.failureOf reply), net)

/-- The events of a reply. -/
def eventsOf (reply : HttpReply) : List StreamEvent :=
  events (reply.chunks.map (·.toList)) (if reply.complete then none else some Network.bodyCut)

/-- Asks the model: the events of its answer, or why there is none. -/
def ask (c : Connection) (r : ModelRequest) (net : Network) :
    Except ProviderFailure (List StreamEvent) × Network :=
  let request := c.request r
  match request.fault? with
  | some fault => (.error (.network fault), net)
  | none =>
    let (result, net) := c.send request retryLimit net
    (result.map eventsOf, net)

end Connection

end AgentDesk.Anthropic
