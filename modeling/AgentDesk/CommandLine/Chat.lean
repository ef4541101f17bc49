import AgentDesk.CommandLine.Report
import AgentDesk.CommandLine.Surroundings
import AgentDesk.Desk.Settle
/-!
# Chatting

In a chat the user types lines while an agent works. A line starts a turn, or waits for the turn
that is running; the end of a turn is printed when the chat hears of it. The chat listens to one
turn only, the one that was started last.

The desk, the keyboard and the ends of turns all move by themselves. A chat makes one move at a
time, and any order of moves is possible.

## Main definitions

* `Chat`, `ChatMove`, `Chat.step?` — the moves.
* `Chat.feed` — one line, and then everything that follows from it.
* `Chat.ask` — a single message without typing.
-/

namespace AgentDesk

/-- A chat with an agent. `pending` is the turn whose end is still to be heard of; what was printed
has its latest piece first. -/
structure Chat where
  desk : Desk
  root : TokenId
  post : PostId
  agent : Agent
  session : String
  attachments : List Binary
  pending : Option Nat
  closed : Bool
  printed : List Print

/-- A move: a line is typed, the input ends, the end of a turn is heard of, or the desk makes
a step. -/
inductive ChatMove where
  | typed (line : String)
  | ended
  | heard
  | worked (task : TaskId)
deriving Repr, BEq, DecidableEq

namespace Chat

/-- What asks the user to type. -/
def prompt : Print := .out "  You > "

/-- The words that end a chat. -/
def farewells : List String := ["exit", "quit"]

/-- Prints pieces. -/
def print (c : Chat) (pieces : List Print) : Chat :=
  { c with printed := pieces.reverse ++ c.printed }

/-- What is printed about the end of a turn. -/
def ending : TurnOutcome → List Print
  | .ok message =>
    .out "\n" :: (Text.lines message.content).map (fun l => .out s!"  Assistant > {l}\n") ++
      [.out "\n"]
  | .error .canceled => [.err "  [Canceled]\n", .out "\n"]
  | .error failure => [.err s!"  [Error] {failure.describe}\n", .out "\n"]

/-- How many prompts of the session wait. -/
def waiting (c : Chat) : Nat :=
  ((c.desk.posts[c.post]?).map fun p => p.tracker.queuedPrompts c.session).getD 0

/-- Hands a prompt to the agent. Attachments go with the first prompt only. -/
def submit (c : Chat) (text : String) : Chat :=
  match c.desk.submit c.post c.root c.session text c.attachments with
  | none => c
  | some (.started turn, desk) => { c with desk, attachments := [], pending := some turn }
  | some (.queued, desk) =>
    let c := { c with desk, attachments := [] }
    c.print [.out s!"  (queued, {c.waiting} waiting)\n", prompt]

/-- A line is typed. -/
def type (c : Chat) (line : String) : Chat :=
  let text := Text.trim line
  if farewells.elem text then { c with closed := true }
  else if text.isEmpty then c.print [prompt]
  else c.submit text

/-- The end of the turn that the chat listens to, once it was delivered. -/
def delivered? (c : Chat) : Option TurnOutcome :=
  (c.pending.bind (c.desk.turns[·]?)).bind TurnTask.outcome?

/-- The end of a turn is heard of. -/
def hear? (c : Chat) : Option Chat :=
  c.delivered?.map fun outcome => { c with pending := none }.print (ending outcome ++ [prompt])

/-- One move; none if it is not possible. Behind the end of a chat only the desk moves. -/
def step? (c : Chat) : ChatMove → Option Chat
  | .typed line => if c.closed then none else some (c.type line)
  | .ended => if c.closed then none else some { c with closed := true }
  | .heard => if c.closed then none else c.hear?
  | .worked task => (c.desk.step? task).map fun desk => { c with desk }

/-! ## One order of the moves -/

/-- The desk settles, and the end of a turn is heard of. -/
def settle (c : Chat) : Chat :=
  let c := { c with desk := c.desk.settle }
  (c.hear?).getD c

/-- A line is typed, and everything happens that follows from it. -/
def feed (c : Chat) (line : String) : Chat :=
  if c.closed then c
  else
    let c := c.type line
    if c.closed then c else c.settle

/-- Lines are typed, and then the input ends. -/
def feedAll (c : Chat) (lines : List String) : Chat := { lines.foldl feed c with closed := true }

/-- What is printed above a chat. -/
def banner (c : Chat) : List Print :=
  let bar := String.ofList (List.replicate 46 '═')
  let tools := Text.join ", " c.agent.tools.names
  [.out <| Report.ofLines ["", s!"  ╔{bar}╗", "  ║          Taskloom : Interactive Mode         ║",
    s!"  ╚{bar}╝", "", s!"  Agent:     {c.agent.name} ({c.agent.id})",
    s!"  Model:     {c.agent.model.id}", s!"  Tools:     {tools}", s!"  Session:   {c.session}", "",
    "  Type your message and press Enter.", "  Messages sent while the agent works are queued.",
    "  Ctrl+C cancels the running turn; 'exit' quits.", ""], prompt]

/-- What is printed below a chat. -/
def goodbye : Print := .out "\n  Goodbye!\n"

/-! ## A single message -/

/-- What is printed about the answer to a single message. -/
def reply : TurnOutcome → List Print
  | .ok message => [.out s!"{message.content}\n"]
  | failed => ending failed

/-- Asks a single message and waits for the answer. -/
def ask (c : Chat) (text : String) : Chat :=
  let c := (c.submit text).print [.err "  Thinking..."]
  let c := { c with desk := c.desk.settle }.print [.err "\r              \r"]
  match c.delivered? with
  | some outcome => c.print (reply outcome)
  | none => c.print [.err "  [Error] turn ended without a result\n"]

/-- Cancels what still goes on at any post. -/
def cancelAll (c : Chat) : Chat :=
  { c with desk := (c.desk.directory.foldl (fun d (_, post) => d.cancelAll post) c.desk).settle }

end Chat

end AgentDesk
