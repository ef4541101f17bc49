import AgentDesk.Turn.Request
import AgentDesk.Usage
/-!
# The course of a turn

A turn answers a prompt. It reads the history of its session, records the prompt, and then goes
through rounds: each round streams one message of the assistant, runs the tools it calls for, and
records their results. Prompts that arrive meanwhile are picked up between rounds. The turn ends
with the last message or with a failure; in either case the message of the assistant is closed and
each of its tool calls has a result, as far as the store lets it.

A turn is a machine: in each phase it makes one request, and the answer leads to the next phase or
to the end. The machine knows nothing of its surroundings but the answers.

## Main definitions

* `TurnSetup` — what stays the same through a turn.
* `TurnPhase` — where a turn stands.
* `TurnPhase.request` and `TurnPhase.resume` — what it asks next, and where an answer leads.
* `TurnPhase.applyEvent` — what an event of a stream does to a message.
-/

namespace AgentDesk

/-- What stays the same through a turn. -/
structure TurnSetup where
  sessionId : String
  prompt : String
  attachments : List Binary
  model : Model
  tools : List ToolDefinition
  systemPrompt : Option String
  maxTokens : Nat

/-- Where a turn stands. -/
inductive TurnPhase where
  /-- The history is to be listed. -/
  | listing
  /-- The session is to be read for its summary. -/
  | reading (history : List Message)
  /-- The prompt is to be recorded. -/
  | prompting (history : List Message)
  /-- A round is to begin unless the turn was canceled. -/
  | round (history : List Message)
  /-- The message of the assistant is to be created. -/
  | answering (history : List Message)
  /-- The stream is to be opened. -/
  | opening (history : List Message) (message : Message)
  /-- The next event of the stream is awaited. -/
  | streaming (history : List Message) (message : Message)
  /-- The message is to be saved after an event; the event may have completed the stream. -/
  | saving (history : List Message) (message : Message) (tokens : Option Tokens)
  /-- The session is to be read to account for the answer. -/
  | accounting (history : List Message) (message : Message) (tokens : Tokens)
  /-- The session is to be saved with the answer accounted for. -/
  | charging (history : List Message) (message : Message) (session : Session)
  /-- The tool of the next call is to be started unless the turn was canceled. -/
  | dispatching (history : List Message) (message : Message) (results : List ToolResult)
      (call : ToolCall) (rest : List ToolCall)
  /-- The outcome of a tool is awaited. -/
  | awaiting (history : List Message) (message : Message) (results : List ToolResult)
      (call : ToolCall) (rest : List ToolCall)
  /-- The message, closed because the tools were stopped, is to be saved. -/
  | stopping (history : List Message) (message : Message) (results : List ToolResult)
  /-- The results of the tools are to be recorded. -/
  | recording (history : List Message) (message : Message) (results : List ToolResult)
  /-- The queued prompts are to be taken behind the results of tools. -/
  | draining (history : List Message)
  /-- The queued prompts are to be taken at the end of the answer. -/
  | taking (history : List Message) (message : Message)
  /-- A queued prompt is to be recorded. -/
  | queuing (history : List Message) (prompt : String) (rest : List String)
  /-- The message, closed because of a failure, is to be saved; the calls are those to answer. -/
  | failing (message : Message) (calls : List ToolCall) (cause : TurnFailure)
  /-- The results of calls that were never made are to be recorded. -/
  | excusing (calls : List ToolCall) (cause : TurnFailure)
  /-- The message, closed because its stream ended early, is to be saved. -/
  | closing (message : Message)

/-- Where an answer leads: to another phase, or to the end of the turn. -/
inductive TurnProgress where
  | next (phase : TurnPhase)
  | stop (outcome : Except TurnFailure Message)

namespace TurnPhase

/-! ## Texts -/

/-- The result of a call that was not made because the turn was stopped. -/
def toolCanceled : String := "Tool execution canceled by user"

/-- The result of a call that was denied, and the text that closes the message. -/
def permissionDenied : String := "Permission denied"

/-- The text that closes the message of a canceled turn. -/
def requestCanceled : String := "Request cancelled"

/-- The result of a call for which there is no tool. -/
def toolUnknown (name : String) : String := s!"Tool not found: {name}"

/-- A result that reports a failure. -/
def errorResult (call : ToolCall) (content : String) : ToolResult :=
  ⟨call.id, call.name, content, none, true⟩

/-- The results of calls that were not made. -/
def canceledResults (calls : List ToolCall) : List ToolResult :=
  calls.map (errorResult · toolCanceled)

/-- The result of a call that was answered. -/
def resultOf (call : ToolCall) (r : ToolResponse) : ToolResult :=
  ⟨call.id, call.name, r.content, r.metadata, r.isError⟩

/-! ## Steps of the course -/

/-- The draft of a message of the user. -/
def userDraft (text : String) (files : List Binary) : Draft :=
  ⟨.user, .text text :: files.map .binary, none, none⟩

/-- The draft of a message of the assistant. -/
def assistantDraft (model : Model) : Draft := ⟨.assistant, [], some model.id, some model.provider⟩

/-- The draft of a message with the results of tools. -/
def resultsDraft (model : Model) (results : List ToolResult) : Draft :=
  ⟨.tool, results.map .toolResult, none, some model.provider⟩

/-- The history from the message that summarizes what came before it, with that message spoken
by the user. A summary that is not in the history changes nothing. -/
def fromSummary (summary : Option String) (history : List Message) : List Message :=
  match summary with
  | none => history
  | some id =>
    match history.dropWhile fun m => !(m.id == id) with
    | [] => history
    | m :: rest => { m with role := .user } :: rest

/-- What an event does to the message: `none` for the event that reports a failure. The tokens
are those of a completed answer. -/
def applyEvent (now : Timestamp) (m : Message) : StreamEvent → Except ProviderFailure
    (Message × Option Tokens)
  | .thinking d => .ok (m.appendThinking now d, none)
  | .signature d => .ok (m.appendSignature now d, none)
  | .content d => .ok ((m.finishThinking now).appendContent now d, none)
  | .toolStart c => .ok ((m.finishThinking now).addToolCall now c, none)
  | .toolDelta id d => .ok (m.appendToolInput now id d, none)
  | .toolStop id => .ok (m.finishToolCall now id, none)
  | .complete a =>
    let m := m.finishThinking now
    let m := if a.toolCalls.isEmpty then m else m.setToolCalls now a.toolCalls
    .ok (m.addFinish now a.reason "" "", some a.tokens)
  | .failed cause => .error cause

/-- The message closed for a failure. -/
def closeFor (now : Timestamp) (cause : TurnFailure) (m : Message) : Message :=
  if cause.isCanceled then m.addFinish now .canceled requestCanceled ""
  else m.addFinish now .error "API Error" cause.describe

/-- The message with every open call marked as finished. -/
def finishCalls (now : Timestamp) (m : Message) : Message :=
  (m.toolCalls.filter fun c => !c.finished).foldl (fun m c => m.finishToolCall now c.id) m

/-- Gives up a stream: its calls are finished and will be answered as canceled, and the message is
closed. -/
def abort (now : Timestamp) (m : Message) (cause : TurnFailure) : TurnPhase :=
  .failing (closeFor now cause (finishCalls now m)) m.toolCalls cause

/-- The failure of a store while something was being done. -/
def storeFailed (context : String) (cause : StoreFailure) : TurnProgress :=
  .stop (.error (.store context cause))

/-- Goes on to the next call, or to recording the results. -/
def nextCall (history : List Message) (m : Message) (results : List ToolResult) :
    List ToolCall → TurnPhase
  | [] => .recording history m results
  | c :: rest => .dispatching history m results c rest

/-- Stops the tools: the calls from `calls` on are answered as canceled. -/
def stopTools (now : Timestamp) (history : List Message) (m : Message) (results : List ToolResult)
    (calls : List ToolCall) : TurnPhase :=
  .stopping history (m.addFinish now .canceled requestCanceled "")
    (results ++ canceledResults calls)

/-- What follows the message of a round, given the message with the results of its tools. -/
def afterRound (now : Timestamp) (history : List Message) (m : Message) (tools : Option Message) :
    TurnProgress :=
  match m.finishReason?, tools with
  | some .toolUse, some t => .next (.draining (history ++ [m, t]))
  | some .endTurn, _ => .next (.taking (history ++ [m]) m)
  | some .canceled, _ => .stop (.error .canceled)
  | none, _ => .next (.closing (m.addFinish now .canceled requestCanceled ""))
  | some _, _ => .stop (.ok m)

/-- What follows a stream that closed. -/
def afterStream (now : Timestamp) (history : List Message) (m : Message) : TurnProgress :=
  match m.toolCalls with
  | [] => afterRound now history m none
  | c :: rest => .next (.dispatching history m [] c rest)

/-- Records the prompts that are not empty, and then begins a round. -/
def record (history : List Message) (prompts : List String) : TurnPhase :=
  match prompts.filter fun p => !p.isEmpty with
  | [] => .round history
  | p :: rest => .queuing history p rest

/-! ## The machine -/

/-- What a turn asks in a phase. -/
def request (setup : TurnSetup) : TurnPhase → TurnRequest
  | .listing => .listMessages
  | .reading _ => .readSession
  | .prompting _ => .createMessage (userDraft setup.prompt setup.attachments)
  | .round _ => .isCanceled
  | .answering _ => .createMessage (assistantDraft setup.model)
  | .opening history _ =>
    .openStream ⟨history, setup.tools, setup.systemPrompt, setup.maxTokens⟩
  | .streaming _ _ => .nextEvent
  | .saving _ m _ => .updateMessage m
  | .accounting _ _ _ => .readSession
  | .charging _ _ session => .saveSession session
  | .dispatching _ m _ call _ => .startTool m.id call
  | .awaiting _ _ _ _ _ => .awaitTool
  | .stopping _ m _ => .updateMessage m
  | .recording _ _ results => .createMessage (resultsDraft setup.model results)
  | .draining _ => .drainQueue
  | .taking _ _ => .finishOrTake
  | .queuing _ prompt _ => .createMessage (userDraft prompt [])
  | .failing m _ _ => .updateMessage m
  | .excusing calls _ => .createMessage (resultsDraft setup.model (canceledResults calls))
  | .closing m => .updateMessage m

/-- Where the answer to the request of a phase leads. -/
def resume (setup : TurnSetup) (now : Timestamp) :
    (p : TurnPhase) → (p.request setup).Reply → TurnProgress
  | .listing, (r : Except StoreFailure (List Message)) =>
    match r with
    | .error e => storeFailed "failed to list messages" e
    | .ok history => .next (.reading history)
  | .reading history, (r : Except StoreFailure Session) =>
    match r with
    | .error e => storeFailed "failed to get session" e
    | .ok session => .next (.prompting (fromSummary session.summary history))
  | .prompting history, (r : Except StoreFailure Message) =>
    match r with
    | .error e => storeFailed "failed to create user message" e
    | .ok message => .next (.round (history ++ [message]))
  | .round history, (canceled : Bool) =>
    if canceled then .stop (.error .canceled) else .next (.answering history)
  | .answering history, (r : Except StoreFailure Message) =>
    match r with
    | .error e => storeFailed "failed to create assistant message" e
    | .ok message => .next (.opening history message)
  | .opening history m, (r : Opening) =>
    match r with
    | .canceled => .next (.failing (closeFor now .canceled m) [] .canceled)
    | .failed e => .next (.failing (closeFor now (.provider e) m) [] (.provider e))
    | .panicked message => .stop (.error (.panicked message))
    | .opened => .next (.streaming history m)
  | .streaming history m, (r : NextEvent) =>
    match r with
    | .canceled => .next (abort now m .canceled)
    | .closed => afterStream now history m
    | .event e =>
      match applyEvent now m e with
      | .ok (m, tokens) => .next (.saving history m tokens)
      | .error cause => .next (abort now m (.provider cause))
  | .saving history m tokens, (r : Except StoreFailure Unit) =>
    match r with
    | .error e => .next (abort now m (.store "failed to update message" e))
    | .ok () =>
      match tokens with
      | none => .next (.streaming history m)
      | some t => .next (.accounting history m t)
  | .accounting history m tokens, (r : Except StoreFailure Session) =>
    match r with
    | .error e => .next (abort now m (.store "failed to get session" e))
    | .ok session => .next (.charging history m (Usage.accrue setup.model tokens session))
  | .charging history m _, (r : Except StoreFailure Session) =>
    match r with
    | .error e => .next (abort now m (.store "failed to save session" e))
    | .ok _ => .next (.streaming history m)
  | .dispatching history m results call rest, (r : ToolStart) =>
    match r with
    | .canceled => .next (stopTools now history m results (call :: rest))
    | .unknown =>
      .next (nextCall history m (results ++ [errorResult call (toolUnknown call.name)]) rest)
    | .started => .next (.awaiting history m results call rest)
  | .awaiting history m results call rest, (r : ToolEnd) =>
    match r with
    | .canceled => .next (stopTools now history m results (call :: rest))
    | .ended (.ok response) =>
      .next (nextCall history m (results ++ [resultOf call response]) rest)
    | .ended (.error (.denied _ _)) =>
      .next (.stopping history (m.addFinish now .permissionDenied permissionDenied "")
        (results ++ errorResult call permissionDenied :: canceledResults rest))
    | .ended (.error e) =>
      .next (nextCall history m (results ++ [errorResult call e.describe]) rest)
  | .stopping history m results, (_ : Except StoreFailure Unit) =>
    .next (.recording history m results)
  | .recording history m _, (r : Except StoreFailure Message) =>
    match r with
    | .error e => storeFailed "failed to create tool message" e
    | .ok tools => afterRound now history m (some tools)
  | .draining history, (prompts : List String) => .next (record history prompts)
  | .taking history m, (prompts : List String) =>
    if prompts.isEmpty then .stop (.ok m)
    else if prompts.all String.isEmpty then .next (.taking history m)
    else .next (record history prompts)
  | .queuing history _ rest, (r : Except StoreFailure Message) =>
    match r with
    | .error e => storeFailed "failed to create user message for queued prompt" e
    | .ok message =>
      match rest with
      | [] => .next (.round (history ++ [message]))
      | p :: rest => .next (.queuing (history ++ [message]) p rest)
  | .failing _ calls cause, (_ : Except StoreFailure Unit) =>
    if calls.isEmpty then .stop (.error cause) else .next (.excusing calls cause)
  | .excusing _ cause, (_ : Except StoreFailure Message) => .stop (.error cause)
  | .closing _, (_ : Except StoreFailure Unit) => .stop (.error .canceled)

end TurnPhase

end AgentDesk
