import AgentDesk.Agent.Definition
import AgentDesk.Table
/-!
# Which sessions are busy

A tracker knows, for every session of an agent, the turn that is running in it and the prompts
that arrived meanwhile. A turn is named by its generation, a number that is never used twice.
Cancellation tokens form a tree: a token is canceled when it or one of its ancestors was.

Every operation is one atomic step.

## Main definitions

* `TokenTree` — cancellation tokens.
* `Tracker.submit` — starts a turn, or queues the prompt behind the one that is running.
* `Tracker.finish`, `Tracker.finishOrTake` — a turn ends, unless prompts wait for it.
* `Tracker.cancel`, `Tracker.clearQueue`, `Tracker.drain`.
-/

namespace AgentDesk

/-- The name of a cancellation token. -/
abbrev TokenId := Nat

/-- One token: its parent and whether it was itself canceled. -/
structure TokenNode where
  parent : Option TokenId
  canceled : Bool
deriving Repr, BEq, DecidableEq, Inhabited

/-- The tokens in order of creation; a parent is older than its children. -/
structure TokenTree where
  nodes : List TokenNode
deriving Repr, BEq, DecidableEq, Inhabited

namespace TokenTree

/-- The tree without tokens. -/
def empty : TokenTree := ⟨[]⟩

/-- Adds a token below a parent. -/
def fork (t : TokenTree) (parent : Option TokenId) : TokenId × TokenTree :=
  (t.nodes.length, ⟨t.nodes ++ [⟨parent, false⟩]⟩)

/-- Cancels a token. -/
def cancel (t : TokenTree) (id : TokenId) : TokenTree :=
  ⟨t.nodes.modify id fun n => { n with canceled := true }⟩

/-- Whether a token or one of the ancestors reached in `fuel` steps was canceled. -/
def canceledWithin (t : TokenTree) : Nat → TokenId → Bool
  | 0, _ => false
  | fuel + 1, id =>
    match t.nodes[id]? with
    | none => false
    | some n => n.canceled || (match n.parent with
      | none => false
      | some p => canceledWithin t fuel p)

/-- Whether a token is canceled. A chain of ancestors is no longer than the tree. -/
def isCanceled (t : TokenTree) (id : TokenId) : Bool := t.canceledWithin (t.nodes.length + 1) id

end TokenTree

/-- The turn that runs in a session. -/
structure ActiveTurn where
  token : TokenId
  generation : Nat
deriving Repr, BEq, DecidableEq, Inhabited

/-- The busy sessions of an agent and the prompts that wait for them. -/
structure Tracker where
  active : Table String ActiveTurn
  queues : Table String (List String)
  lastGeneration : Nat
deriving Repr, BEq, DecidableEq, Inhabited

/-- The answer to a prompt: a turn of its own, or a place in the queue. -/
inductive Admission where
  | started (turn : ActiveTurn)
  | queued
deriving Repr, BEq, DecidableEq

namespace Tracker

/-- A tracker without busy sessions. -/
def idle : Tracker := ⟨[], [], 0⟩

/-- The prompts that wait for a session. -/
def queueOf (t : Tracker) (session : String) : List String :=
  (Table.get? session t.queues).getD []

/-- The turn that runs in a session. -/
def turnOf? (t : Tracker) (session : String) : Option ActiveTurn := Table.get? session t.active

/-- Whether a session is busy. -/
def isSessionBusy (t : Tracker) (session : String) : Bool := Table.has session t.active

/-- Whether any session is busy. -/
def isBusy (t : Tracker) : Bool := !t.active.isEmpty

/-- Whether the agent is busy. -/
def state (t : Tracker) : AgentState := if t.isBusy then .processing else .idle

/-- The number of prompts that wait for a session. -/
def queuedPrompts (t : Tracker) (session : String) : Nat := (t.queueOf session).length

/-- The busy sessions. -/
def activeSessions (t : Tracker) : List String := Table.keys t.active

/-- Starts a turn with a token below `parent`; if the session is busy, the prompt is queued. -/
def submit (t : Tracker) (tokens : TokenTree) (session : String) (parent : TokenId)
    (prompt : String) : Admission × Tracker × TokenTree :=
  if t.isSessionBusy session then
    (.queued, { t with queues := Table.put session (t.queueOf session ++ [prompt]) t.queues },
      tokens)
  else
    let (token, tokens) := tokens.fork (some parent)
    let turn : ActiveTurn := ⟨token, t.lastGeneration + 1⟩
    (.started turn,
      { t with active := Table.put session turn t.active, lastGeneration := t.lastGeneration + 1 },
      tokens)

/-- Whether this is the generation that is registered for the session. -/
def owns (t : Tracker) (session : String) (generation : Nat) : Bool :=
  match t.turnOf? session with
  | some turn => turn.generation == generation
  | none => false

/-- Removes the turn of a session if it has this generation; tells whether it did. -/
def finish (t : Tracker) (session : String) (generation : Nat) : Bool × Tracker :=
  if t.owns session generation then
    (true, { t with active := Table.erase session t.active })
  else (false, t)

/-- Takes the prompts that wait for a turn. If there are none, the turn is removed in the same
step, so that no prompt can arrive in between. Another generation takes nothing. -/
def finishOrTake (t : Tracker) (session : String) (generation : Nat) : List String × Tracker :=
  if t.owns session generation then
    let prompts := t.queueOf session
    let t := { t with queues := Table.erase session t.queues }
    if prompts.isEmpty then (prompts, { t with active := Table.erase session t.active })
    else (prompts, t)
  else ([], t)

/-- Forgets the prompts that wait for a session. -/
def clearQueue (t : Tracker) (session : String) : Tracker :=
  { t with queues := Table.erase session t.queues }

/-- Cancels and removes the turn of a session and forgets the prompts that wait for it. -/
def cancel (t : Tracker) (tokens : TokenTree) (session : String) : Tracker × TokenTree :=
  match t.turnOf? session with
  | some turn =>
    ({ t with active := Table.erase session t.active }.clearQueue session,
      tokens.cancel turn.token)
  | none => (t.clearQueue session, tokens)

/-- Takes the prompts that wait for a session, whoever asks. -/
def drain (t : Tracker) (session : String) : List String × Tracker :=
  (t.queueOf session, t.clearQueue session)

/-- The text that shows a tracker. -/
def describe (t : Tracker) : String :=
  s!"RequestTracker \x7b active: {t.active.length}, queued_sessions: {t.queues.length} \x7d"

end Tracker

end AgentDesk
