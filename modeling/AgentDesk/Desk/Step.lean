import AgentDesk.Desk.Submit
/-!
# The steps of a desk

A step answers one request of a turn or of an errand, or takes a turn that is over out of the
tracker, or delivers its outcome. A task that has to wait has no step.

## Main definitions

* `Desk.stepErrand?` — the next step of an errand.
* `Desk.answer?` — the answer to a request of a turn.
* `Desk.stepTurn?` — the next step of a turn.
* `TaskId`, `Desk.step?` — the next step of any task.
-/

namespace AgentDesk

namespace Desk

/-! ## Errands -/

/-- The answer to a request of a delegation; none if it has to wait. -/
def answerDelegation? (d : Desk) (e : Errand) (peer : PostId) :
    (r : DelegationRequest) → Option (r.Reply × Desk)
  | .readSession id => some (d.perform .getSession fun now => Store.getSession now id)
  | .openTask callId parent title =>
    some (d.perform .openTask fun now => Store.openTask now callId parent title)
  | .submit session prompt =>
    match d.submit peer e.token session prompt [] with
    | some (.started turn, d) => some (TaskStart.started turn, d)
    | some (.queued, d) => some (TaskStart.busy, d)
    | none => none
  | .awaitTurn turn =>
    match (d.turns[turn]?).bind TurnTask.outcome? with
    | some outcome => some (outcome, d)
    | none => none
  | .saveSession session => some (d.perform .saveSession fun now => Store.saveSession now session)

/-- The next step of a delegation. -/
def stepDelegation? (d : Desk) (e : Errand) (peer : PostId) (setup : DelegationSetup)
    (phase : DelegationPhase) : Option (ErrandStage × Desk) :=
  match d.answerDelegation? e peer (phase.request setup) with
  | none => none
  | some (reply, d) =>
    match phase.resume setup reply with
    | .next phase => some (.delegating peer setup phase, d)
    | .stop outcome => some (.ended outcome, d)

/-- The first step of a delegation. -/
def beginDelegation (d : Desk) (e : Errand) (peer : PostId) (peerId : String) : ErrandStage :=
  match e.call.parameters? Delegation.promptShape with
  | .error failure => .ended (.error failure)
  | .ok prompt =>
    if prompt.isEmpty then .ended (.ok (.error "prompt is required"))
    else
      let name := ((d.posts[peer]?).map (·.agent.name)).getD peerId
      .delegating peer ⟨peerId, name, d.maxDepth, e.call.id, e.session, prompt⟩
        (.inspecting e.session 0)

/-- The first step of an errand. -/
def beginErrand (d : Desk) (e : Errand) : ToolBody → ErrandStage × Desk
  | .immediate answer => (.ended (ToolBody.outcomeOf e.call.name (answer e.call)), d)
  | .gated gate response =>
    let (ticket, d) := d.enterGate gate
    (.atGate gate ticket response, d)
  | .patient => (.patient, d)
  | .bench kind =>
    let (outcome, bench) := kind.run (d.isCanceled e.token) e.call d.bench
    (.ended outcome, { d with bench })
  | .delegate peer peerId => (d.beginDelegation e peer peerId, d)

/-- Writes down that an errand starts. -/
def noteStart (d : Desk) (e : Errand) : Desk :=
  { d with started := d.started ++ [⟨e.session, e.call.name, e.call.id⟩] }

/-- The next stage of an errand. -/
def nextStage? (d : Desk) (e : Errand) : Option (ErrandStage × Desk) :=
  match e.stage with
  | .begun body => some ((d.noteStart e).beginErrand e body)
  | .atGate gate ticket response =>
    if d.waitsAt gate ticket then none else some (.ended (.ok response), d)
  | .patient => if d.isCanceled e.token then some (.ended (.error .canceled), d) else none
  | .delegating peer setup phase => d.stepDelegation? e peer setup phase
  | .ended _ => none

/-- The next step of an errand. -/
def stepErrand? (d : Desk) (e : Errand) : Option (Errand × Desk) :=
  (d.nextStage? e).map fun (stage, d) => ({ e with stage }, d)

/-- Gives up an errand: whoever waits at a gate for it goes away. -/
def abandon (d : Desk) (e : Errand) : Desk :=
  let d := d.cancelToken e.token
  match e.stage with
  | .atGate gate ticket _ => { d with gates := d.gates.change gate (·.leave ticket) }
  | _ => d

/-! ## Turns -/

/-- The stream that a provider has prepared; at a gate it takes a ticket. -/
def openStream (d : Desk) (s : PreparedStream) : OpenStream × Desk :=
  match s.gate with
  | none => (⟨none, s.events, s.hangs⟩, d)
  | some gate =>
    let (ticket, d) := d.enterGate gate
    (⟨some (gate, ticket), s.events, s.hangs⟩, d)

/-- Asks the provider of a post. -/
def serve (d : Desk) (t : TurnTask) (request : ModelRequest) : Opening × TurnTask × Desk :=
  let provider := ((d.posts[t.post]?).map (·.agent.provider)).getD 0
  let source := (d.sources[provider]?).getD (.script (Script.ofTurns []))
  let (opening, prepared, source, network) := source.serve request d.bench.network
  let d := { d with
    sources := d.sources.set provider source, bench := { d.bench with network := network } }
  match prepared with
  | none => (opening, { t with stream := none }, d)
  | some s =>
    let (stream, d) := d.openStream s
    (opening, { t with stream := some stream }, d)

/-- What is next on the stream of a turn that was not canceled. -/
def receive? (d : Desk) (t : TurnTask) : Option (NextEvent × TurnTask) :=
  match t.stream with
  | none => some (.closed, t)
  | some s =>
    let held := match s.hold with
      | some (gate, ticket) => d.waitsAt gate ticket
      | none => false
    if held then none
    else
      match s.events with
      | e :: rest =>
        some (.event e, { t with stream := some { s with hold := none, events := rest } })
      | [] => if s.hangs then none else some (.closed, { t with stream := none })

/-- Sends a turn's tool on an errand, if there is a tool of that name. -/
def sendTool (d : Desk) (t : TurnTask) (messageId : String) (call : ToolCall) :
    ToolStart × TurnTask × Desk :=
  match ((d.posts[t.post]?).bind fun p => p.agent.tools.get? call.name) with
  | none => (.unknown, t, d)
  | some body =>
    let (token, d) := d.forkToken (some t.turn.token)
    let errand : Errand :=
      ⟨t.setup.sessionId, messageId, token, ⟨call.id, call.name, call.input⟩, .begun body⟩
    (.started, { t with errand := some errand }, d)

/-- How waiting for a turn's tool ends; none as long as it is on its errand. Cancellation comes
first. -/
def awaitTool? (d : Desk) (t : TurnTask) : Option (ToolEnd × TurnTask × Desk) :=
  if d.isCanceled t.turn.token then
    let d := match t.errand with
      | some e => d.abandon e
      | none => d
    some (.canceled, { t with errand := none }, d)
  else
    match t.errand.bind Errand.outcome? with
    | some outcome => some (.ended outcome, { t with errand := none }, d)
    | none => none

/-- Uses the tracker of a post. -/
def useTracker (d : Desk) (post : PostId) (act : Tracker → List String × Tracker) :
    List String × Desk :=
  match d.posts[post]? with
  | none => ([], d)
  | some p =>
    let (prompts, tracker) := act p.tracker
    (prompts, d.changePost post ({ · with tracker }))

/-- The answer to a request of a turn; none if the turn has to wait. -/
def answer? (d : Desk) (t : TurnTask) : (r : TurnRequest) → Option (r.Reply × TurnTask × Desk)
  | .listMessages =>
    let (result, d) := d.perform .listMessages fun now => Store.listMessages now t.setup.sessionId
    some (result, t, d)
  | .readSession =>
    let (result, d) := d.perform .getSession fun now => Store.getSession now t.setup.sessionId
    some (result, t, d)
  | .saveSession session =>
    let (result, d) := d.perform .saveSession fun now => Store.saveSession now session
    some (result, t, d)
  | .createMessage draft =>
    let session := t.setup.sessionId
    let id := d.nextMessageId session
    let (result, d) := d.perform .createMessage fun now => Store.createMessage now id session draft
    some (result, t, d)
  | .updateMessage message =>
    let (result, d) := d.perform .updateMessage fun now => Store.updateMessage now message
    some (result, t, d)
  | .isCanceled => some (d.isCanceled t.turn.token, t, d)
  | .openStream request =>
    if d.isCanceled t.turn.token then some (Opening.canceled, t, d) else some (d.serve t request)
  | .nextEvent =>
    if d.isCanceled t.turn.token then some (NextEvent.canceled, { t with stream := none }, d)
    else
      match d.receive? t with
      | some (next, t) => some (next, t, d)
      | none => none
  | .startTool messageId call =>
    if d.isCanceled t.turn.token then some (ToolStart.canceled, t, d)
    else some (d.sendTool t messageId call)
  | .awaitTool => d.awaitTool? t
  | .drainQueue =>
    let (prompts, d) := d.useTracker t.post (·.drain t.setup.sessionId)
    some (prompts, t, d)
  | .finishOrTake =>
    let (prompts, d) :=
      d.useTracker t.post (·.finishOrTake t.setup.sessionId t.turn.generation)
    some (prompts, t, d)

/-- Puts a turn in its place. -/
def setTurn (d : Desk) (i : Nat) (t : TurnTask) : Desk := { d with turns := d.turns.set i t }

/-- Takes a turn out of its tracker, if it is still there, and cancels its token. -/
def unregister (d : Desk) (t : TurnTask) : Desk :=
  (d.changePost t.post fun p =>
    { p with tracker := (p.tracker.finish t.setup.sessionId t.turn.generation).2 }).cancelToken
    t.turn.token

/-- Tells everybody who listens at a post how a turn ended. -/
def publish (d : Desk) (post : PostId) (outcome : TurnOutcome) : Desk :=
  d.changePost post fun p => { p with broker := (p.broker.publish .created outcome).2 }

/-- The next step of the course of a turn. -/
def stepCourse? (d : Desk) (t : TurnTask) (phase : TurnPhase) : Option (TurnTask × Desk) :=
  match d.answer? t (phase.request t.setup) with
  | none => none
  | some (reply, t', d) =>
    match phase.resume t.setup d.now reply with
    | .next phase => some ({ t' with stage := .working phase }, d.tick)
    | .stop outcome =>
      some ({ t' with stage := .unregistering outcome, stream := none, errand := none }, d.tick)

/-- The next step of a turn. -/
def stepTask? (d : Desk) (t : TurnTask) : Option (TurnTask × Desk) :=
  match t.stage with
  | .working phase => d.stepCourse? t phase
  | .unregistering outcome => some ({ t with stage := .delivering outcome }, d.unregister t)
  | .delivering outcome => some ({ t with stage := .ended outcome }, d.publish t.post outcome)
  | .ended _ => none

/-- The next step of the turn in a place. -/
def stepTurn? (d : Desk) (i : Nat) : Option Desk :=
  match d.turns[i]? with
  | none => none
  | some t => (d.stepTask? t).map fun (t, d) => d.setTurn i t

end Desk

/-- What can make a step: a turn, the tool of a turn, or an errand without a turn. -/
inductive TaskId where
  | turn (i : Nat)
  | toolOf (i : Nat)
  | errand (i : Nat)
deriving Repr, BEq, DecidableEq

namespace Desk

/-- The next step of the tool that a turn waits for. -/
def stepToolOf? (d : Desk) (i : Nat) : Option Desk :=
  match d.turns[i]? with
  | none => none
  | some t =>
    match t.errand with
    | none => none
    | some e =>
      (d.stepErrand? e).map fun (e, d) =>
        { d with turns := d.turns.modify i fun t => { t with errand := some e } }

/-- The next step of an errand without a turn. -/
def stepOwnErrand? (d : Desk) (i : Nat) : Option Desk :=
  match d.errands[i]? with
  | none => none
  | some e => (d.stepErrand? e).map fun (e, d) => { d with errands := d.errands.set i e }

/-- The next step of a task; none if it has to wait or is done. -/
def step? (d : Desk) : TaskId → Option Desk
  | .turn i => d.stepTurn? i
  | .toolOf i => d.stepToolOf? i
  | .errand i => d.stepOwnErrand? i

end Desk

end AgentDesk
