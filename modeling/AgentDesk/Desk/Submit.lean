import AgentDesk.Desk.State
/-!
# What is asked of a desk

Prompts are submitted to an agent, turns are canceled, gates are opened, and tools may be called
without a turn. None of this waits for anything.

## Main definitions

* `Desk.submit`, `Submission`.
* `Desk.cancel`, `Desk.clearQueue`, `Desk.cancelAll`, `Desk.cancelToken`, `Desk.release`.
* `Desk.ask` — calls a tool without a turn.
-/

namespace AgentDesk

/-- What becomes of a prompt: a turn, or a place in the queue of its session. -/
inductive Submission where
  | started (turn : Nat)
  | queued
deriving Repr, BEq, DecidableEq

namespace Desk

/-- What stays the same through a turn of an agent. A model that takes no attachments gets
none. -/
def setupFor (agent : Agent) (session prompt : String) (files : List Binary) : TurnSetup where
  sessionId := session
  prompt := prompt
  attachments := if agent.model.takesAttachments then files else []
  model := agent.model
  tools := agent.tools.definitions
  systemPrompt := agent.systemPrompt
  maxTokens := agent.maxTokens

/-- Submits a prompt to the agent of a post; none if there is no such post. A busy session queues
the prompt and drops what is attached. -/
def submit (d : Desk) (post : PostId) (parent : TokenId) (session prompt : String)
    (files : List Binary) : Option (Submission × Desk) :=
  (d.posts[post]?).map fun p =>
    let (admission, tracker, tokens) := p.tracker.submit d.tokens session parent prompt
    let d := { d.changePost post ({ · with tracker }) with tokens }
    match admission with
    | .queued => (.queued, d)
    | .started turn =>
      let task : TurnTask :=
        ⟨post, turn, setupFor p.agent session prompt files, .working .listing, none, none⟩
      (.started d.turns.length, { d with turns := d.turns ++ [task] })

/-- Cancels the turn of a session and forgets the prompts that wait for it. -/
def cancel (d : Desk) (post : PostId) (session : String) : Desk :=
  match d.posts[post]? with
  | none => d
  | some p =>
    let (tracker, tokens) := p.tracker.cancel d.tokens session
    { d.changePost post ({ · with tracker }) with tokens }

/-- Forgets the prompts that wait for a session. -/
def clearQueue (d : Desk) (post : PostId) (session : String) : Desk :=
  d.changePost post fun p => { p with tracker := p.tracker.clearQueue session }

/-- Cancels the turns of all busy sessions of an agent. The caller then waits until the agent is
idle, or gives up after a while. -/
def cancelAll (d : Desk) (post : PostId) : Desk :=
  match d.posts[post]? with
  | none => d
  | some p => p.tracker.activeSessions.foldl (fun d session => d.cancel post session) d

/-- Cancels a token. -/
def cancelToken (d : Desk) (token : TokenId) : Desk := { d with tokens := d.tokens.cancel token }

/-- Opens a gate once. -/
def release (d : Desk) (gate : String) : Desk :=
  { d with gates := d.gates.change gate Gate.release }

/-- Calls a tool without a turn, under a token of its own. -/
def ask (d : Desk) (session : String) (body : ToolBody) (call : Invocation) : Desk :=
  let (token, d) := d.forkToken none
  { d with errands := d.errands ++ [⟨session, "", token, call, .begun body⟩] }

end Desk

end AgentDesk
