import AgentDesk.Tool
/-!
# What a turn asks of its surroundings

A turn is driven by its surroundings: the store, the tracker, the provider, the tools and its
cancellation token. It asks for one thing at a time, and each request is one atomic step of the
surroundings. When a turn opens a stream, waits for the next event, starts a tool or waits for it,
cancellation comes first.

## Main definitions

* `TurnRequest` — the requests.
* `TurnRequest.Reply` — the type of the answer to each request.
-/

namespace AgentDesk

/-- How the opening of a stream ends. -/
inductive Opening where
  | canceled
  | opened
  | failed (cause : ProviderFailure)
  | panicked (message : String)
deriving Repr, BEq, DecidableEq

/-- What is next on a stream. -/
inductive NextEvent where
  | canceled
  | event (e : StreamEvent)
  | closed
deriving Repr, BEq, DecidableEq

/-- How the start of a tool goes. A turn does not wait between asking whether it was canceled and
sending its tool off, so that both are one step. -/
inductive ToolStart where
  | canceled
  | unknown
  | started
deriving Repr, BEq, DecidableEq

/-- How waiting for a tool ends. -/
inductive ToolEnd where
  | canceled
  | ended (outcome : ToolOutcome)

/-- What a turn asks of its surroundings. -/
inductive TurnRequest where
  | listMessages
  | readSession
  | saveSession (session : Session)
  | createMessage (draft : Draft)
  | updateMessage (message : Message)
  | isCanceled
  | openStream (request : ModelRequest)
  | nextEvent
  | startTool (messageId : String) (call : ToolCall)
  | awaitTool
  | drainQueue
  | finishOrTake

/-- The type of the answer to a request. -/
def TurnRequest.Reply : TurnRequest → Type
  | .listMessages => Except StoreFailure (List Message)
  | .readSession => Except StoreFailure Session
  | .saveSession _ => Except StoreFailure Session
  | .createMessage _ => Except StoreFailure Message
  | .updateMessage _ => Except StoreFailure Unit
  | .isCanceled => Bool
  | .openStream _ => Opening
  | .nextEvent => NextEvent
  | .startTool _ _ => ToolStart
  | .awaitTool => ToolEnd
  | .drainQueue => List String
  | .finishOrTake => List String

end AgentDesk
