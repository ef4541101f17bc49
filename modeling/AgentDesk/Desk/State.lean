import AgentDesk.Agent.Roster
import AgentDesk.Desk.Gate
import AgentDesk.Provider.Source
import AgentDesk.Store.Outage
import AgentDesk.Tracker
import AgentDesk.Turn.Phase
/-!
# The desk

The desk is where agents work. It holds one post for each agent, the store, the cancellation
tokens, and everything that is going on: the turns, each with its stream and the errand that its
tool is on, and the errands that somebody outside asked for.

Nothing happens on a desk by itself. What can happen next is told by the steps of turns and errands;
each of them is atomic, and any order of them is possible.

## Main definitions

* `Post`, `Errand`, `TurnTask`, `Desk`.
* `Desk.openOn` — a desk on which nothing has happened.
-/

namespace AgentDesk

/-- How a turn ends: with the last message of the assistant, or with a failure. -/
abbrev TurnOutcome := Except TurnFailure Message

/-- The place of one agent: which of its sessions are busy, and who hears of its turns. -/
structure Post where
  agent : Agent
  tracker : Tracker
  broker : Broker TurnOutcome

/-- The text that shows a post. -/
def Post.describe (p : Post) : String :=
  let id := Text.quoted p.agent.id
  let model := Text.quoted p.agent.model.id
  let tools := Text.quotedList p.agent.tools.names
  s!"AgentLoop \x7b id: {id}, model: {model}, tools: {tools}, tracker: {p.tracker.describe} \x7d"

/-- A stream that is open. It may be held at a gate under a ticket. -/
structure OpenStream where
  hold : Option (String × Nat)
  events : List StreamEvent
  hangs : Bool
deriving Repr, BEq, DecidableEq

/-- How far an errand has come. -/
inductive ErrandStage where
  | begun (body : ToolBody)
  | atGate (gate : String) (ticket : Nat) (response : ToolResponse)
  | patient
  | delegating (peer : PostId) (setup : DelegationSetup) (phase : DelegationPhase)
  | ended (outcome : ToolOutcome)

/-- A tool call that is being carried out. -/
structure Errand where
  session : String
  messageId : String
  token : TokenId
  call : Invocation
  stage : ErrandStage

/-- How far a turn has come: behind its course it leaves the tracker, and only then it delivers
its outcome. -/
inductive TurnStage where
  | working (phase : TurnPhase)
  | unregistering (outcome : TurnOutcome)
  | delivering (outcome : TurnOutcome)
  | ended (outcome : TurnOutcome)

/-- A turn at a post, with the stream that it reads and the errand that it waits for. -/
structure TurnTask where
  post : PostId
  turn : ActiveTurn
  setup : TurnSetup
  stage : TurnStage
  stream : Option OpenStream
  errand : Option Errand

/-- The start of an errand. -/
structure ErrandStart where
  session : String
  tool : String
  callId : String
deriving Repr, BEq, DecidableEq

/-- Everything that the agents work with. Turns are named by their place in the list, which only
grows; a provider is named by the place of its source. -/
structure Desk where
  posts : List Post
  directory : Table String PostId
  maxDepth : Nat
  sources : List Source
  store : WatchedStore
  tokens : TokenTree
  gates : Gates
  turns : List TurnTask
  errands : List Errand
  bench : Workbench
  started : List ErrandStart
  tickets : Nat
  clock : Nat

namespace TurnTask

/-- The outcome of a turn that delivered it. -/
def outcome? (t : TurnTask) : Option TurnOutcome :=
  match t.stage with
  | .ended outcome => some outcome
  | _ => none

end TurnTask

namespace Errand

/-- The outcome of an errand that is done. -/
def outcome? (e : Errand) : Option ToolOutcome :=
  match e.stage with
  | .ended outcome => some outcome
  | _ => none

end Errand

namespace Desk

/-- The desk of a roster on which nothing has happened. -/
def openOn (roster : Roster) (sources : List Source) (store : WatchedStore) (bench : Workbench) :
    Desk where
  posts := roster.agents.map fun agent => ⟨agent, Tracker.idle, Broker.standard⟩
  directory := roster.directory
  maxDepth := roster.maxDepth
  sources := sources
  store := store
  tokens := TokenTree.empty
  gates := []
  turns := []
  errands := []
  bench := bench
  started := []
  tickets := 0
  clock := 0

/-- The roster that a desk serves. -/
def roster (d : Desk) : Roster := ⟨d.posts.map (·.agent), d.directory, d.maxDepth⟩

/-- The time of the next step. -/
def now (d : Desk) : Timestamp := Timestamp.ofNanos d.clock

/-- The desk a moment later. -/
def tick (d : Desk) : Desk := { d with clock := d.clock + 1 }

/-- Changes a post. -/
def changePost (d : Desk) (post : PostId) (f : Post → Post) : Desk :=
  { d with posts := d.posts.modify post f }

/-- The name of the next message of a session: its place in the session. -/
def nextMessageId (d : Desk) (session : String) : String :=
  let place := match (d.store.store.listMessages d.now session).result with
    | .ok messages => messages.length + 1
    | .error _ => 0
  s!"{session}#{place}"

/-- Performs one call of the store. -/
def perform (d : Desk) (operation : StoreOperation) (act : Timestamp → Store → StoreReply Store α) :
    Except StoreFailure α × Desk :=
  let (result, store) := d.store.perform operation (act d.now)
  (result, { d with store }.tick)

/-- Adds a cancellation token. -/
def forkToken (d : Desk) (parent : Option TokenId) : TokenId × Desk :=
  let (token, tokens) := d.tokens.fork parent
  (token, { d with tokens })

/-- Whether a token is canceled. -/
def isCanceled (d : Desk) (token : TokenId) : Bool := d.tokens.isCanceled token

/-- Comes to a gate and takes a ticket. -/
def enterGate (d : Desk) (gate : String) : Nat × Desk :=
  (d.tickets,
    { d with tickets := d.tickets + 1, gates := d.gates.change gate (·.enter d.tickets) })

/-- Whether a ticket waits at a gate. -/
def waitsAt (d : Desk) (gate : String) (ticket : Nat) : Bool := (d.gates.named gate).holds ticket

end Desk

end AgentDesk
