import AgentDesk.Tool
import AgentDesk.Usage
/-!
# Delegation

An agent can hand a task on to another one, which works in a session of its own below the session
of its caller. Delegations may be nested up to a limit. When the task has ended, its cost is added
to the session of the caller.

A delegation is a machine like a turn: in each phase it makes one request, and the answer leads to
the next phase or to the end.

## Main definitions

* `Delegation.info` — what is told about the tool.
* `DelegationSetup`, `DelegationPhase`.
* `DelegationPhase.request` and `DelegationPhase.resume`.
-/

namespace AgentDesk

namespace Delegation

/-- The usual limit of nested delegations. -/
def usualDepth : Nat := 4

/-- The name of the tool that delegates to an agent. -/
def toolName (agentId : String) : String := s!"agent_{agentId}"

/-- What is told about the tool that delegates to an agent. -/
def info (agentId : String) : ToolInfo where
  name := toolName agentId
  description := s!"Launch the {agentId} agent. " ++
    "Delegates a task to a sub-agent. The sub-agent works in its own session with its own tools " ++
    "and returns its final answer.

HOW TO USE:
- Give a complete, self-contained prompt: the sub-agent cannot see this conversation
- Say exactly what information should come back in the answer
- Launch several agents in one response to work in parallel where possible

LIMITATIONS:
- The sub-agent's answer is not shown to the user; summarize it yourself
- Each call starts a fresh session with no memory of earlier calls"
  parameters := [("prompt", Json.sorted [("type", .string "string"),
    ("description", .string "The task for the agent to perform")])]
  required := ["prompt"]

/-- Reads the prompt of a call. -/
def promptShape : Shape String := fun r d => do
  let fields ← d.record? ["prompt"] r
  fields.orDefault? "prompt" Document.text? ""

end Delegation

/-- What stays the same through a delegation. -/
structure DelegationSetup where
  agentId : String
  agentName : String
  /-- The limit of nested delegations, which are counted in words of 32 bits; one more than the
  limit has to fit into them. -/
  maxDepth : Nat
  callId : String
  caller : String
  prompt : String
deriving Repr, BEq, DecidableEq

/-- What a delegation asks of its surroundings. -/
inductive DelegationRequest where
  | readSession (id : String)
  | openTask (callId parent title : String)
  | submit (session prompt : String)
  | awaitTurn (turn : Nat)
  | saveSession (session : Session)

/-- How a task is taken on: a turn of its own, or a place behind a turn that is running. -/
inductive TaskStart where
  | started (turn : Nat)
  | busy
deriving Repr, BEq, DecidableEq

/-- The type of the answer to each request. -/
def DelegationRequest.Reply : DelegationRequest → Type
  | .readSession _ => Except StoreFailure Session
  | .openTask _ _ _ => Except StoreFailure Session
  | .submit _ _ => TaskStart
  | .awaitTurn _ => Except TurnFailure Message
  | .saveSession _ => Except StoreFailure Session

/-- Where a delegation stands. -/
inductive DelegationPhase where
  /-- A session on the way up from the caller is to be read. -/
  | inspecting (session : String) (depth : Nat)
  /-- The session of the task is to be opened. -/
  | opening
  /-- The turn of the task is to be started. -/
  | starting (task : String)
  /-- The end of the turn is awaited. -/
  | awaiting (task : String) (turn : Nat)
  /-- The session of the task is to be read for its cost. -/
  | pricing (task : String) (outcome : Except TurnFailure Message)
  /-- The session of the caller is to be read. -/
  | charging (child : Session) (outcome : Except TurnFailure Message)
  /-- The session of the caller is to be saved with the cost. -/
  | saving (child parent : Session) (outcome : Except TurnFailure Message)

/-- Where an answer leads: to another phase, or to the end of the delegation. -/
inductive DelegationProgress where
  | next (phase : DelegationPhase)
  | stop (outcome : ToolOutcome)

namespace DelegationPhase

/-- What a delegation asks in a phase. -/
def request (setup : DelegationSetup) : DelegationPhase → DelegationRequest
  | .inspecting session _ => .readSession session
  | .opening => .openTask setup.callId setup.caller s!"{setup.agentName} task"
  | .starting task => .submit task setup.prompt
  | .awaiting _ turn => .awaitTurn turn
  | .pricing task _ => .readSession task
  | .charging _ _ => .readSession setup.caller
  | .saving _ parent _ => .saveSession parent

/-- The failure of a store while something was being done. -/
def storeFailed (setup : DelegationSetup) (context : String) (cause : StoreFailure) :
    DelegationProgress :=
  .stop (.error (.execution (Delegation.toolName setup.agentId) s!"{context}: {cause.describe}"))

/-- Whether the caller may delegate, given how deep its session is. -/
def consider (setup : DelegationSetup) (depth : Nat) : DelegationProgress :=
  if depth ≥ setup.maxDepth then
    .stop (.ok (.error (s!"maximum delegation depth ({setup.maxDepth}) reached, " ++
      "handle this task directly")))
  else .next .opening

/-- The way up from a session: it ends without a parent, or behind the limit. -/
def climb (setup : DelegationSetup) (depth : Nat) (session : Session) : DelegationProgress :=
  match session.parent with
  | none => consider setup depth
  | some parent =>
    if depth + 1 > setup.maxDepth then consider setup (depth + 1)
    else .next (.inspecting parent (depth + 1))

/-- The answer for a task that ended. -/
def answer (child : Session) (outcome : Except TurnFailure Message) : ToolResponse :=
  let metadata : Json := .object [("session_id", .string child.id), ("cost", .float child.cost)]
  let response := match outcome with
    | .ok message => ToolResponse.text message.content
    | .error .canceled => ToolResponse.error "canceled"
    | .error cause => ToolResponse.error cause.describe
  response.withMetadata metadata

/-- Where the answer to the request of a phase leads. -/
def resume (setup : DelegationSetup) :
    (p : DelegationPhase) → (p.request setup).Reply → DelegationProgress
  | .inspecting _ depth, (r : Except StoreFailure Session) =>
    match r with
    | .error e => storeFailed setup "failed to inspect session" e
    | .ok session => climb setup depth session
  | .opening, (r : Except StoreFailure Session) =>
    match r with
    | .error e => storeFailed setup "failed to create task session" e
    | .ok task => .next (.starting task.id)
  | .starting task, (r : TaskStart) =>
    match r with
    | .busy => .stop (.ok (.error s!"session {task} is already running"))
    | .started turn => .next (.awaiting task turn)
  | .awaiting task _, (r : Except TurnFailure Message) => .next (.pricing task r)
  | .pricing _ outcome, (r : Except StoreFailure Session) =>
    match r with
    | .error e => storeFailed setup "failed to update parent session" e
    | .ok child => .next (.charging child outcome)
  | .charging child outcome, (r : Except StoreFailure Session) =>
    match r with
    | .error e => storeFailed setup "failed to update parent session" e
    | .ok parent => .next (.saving child (Usage.rollUp child parent) outcome)
  | .saving child _ outcome, (r : Except StoreFailure Session) =>
    match r with
    | .error e => storeFailed setup "failed to update parent session" e
    | .ok _ => .stop (.ok (answer child outcome))

end DelegationPhase

end AgentDesk
