import AgentDesk.Workbench
/-!
# What the tools of an agent do

A tool of an agent answers at once, waits, works at the workbench, or hands the task on to another
agent.

## Main definitions

* `ToolBody` — what a tool does.
* `ToolVerdict` — how a tool that answers at once ends.
-/

namespace AgentDesk

/-- How a tool that answers at once ends: with an outcome, or by breaking down, perhaps with a
message. -/
inductive ToolVerdict where
  | answered (outcome : ToolOutcome)
  | panicked (message : Option String)

/-- The agents that were built, by the order in which they were built. -/
abbrev PostId := Nat

/-- What a tool does. -/
inductive ToolBody where
  /-- It answers at once. -/
  | immediate (answer : Invocation → ToolVerdict)
  /-- It waits at a gate before it answers. -/
  | gated (gate : String) (response : ToolResponse)
  /-- It waits until it is canceled. -/
  | patient
  /-- It works at the workbench. -/
  | bench (kind : Workbench.Kind)
  /-- It hands the task on to another agent. -/
  | delegate (peer : PostId) (peerId : String)

namespace ToolBody

/-- The outcome of a call whose tool broke down. -/
def panicOutcome (tool : String) (message : Option String) : ToolOutcome :=
  let text := message.getD "unknown panic"
  .error (.execution tool s!"tool panicked: {text}")

/-- The outcome of a verdict. -/
def outcomeOf (tool : String) : ToolVerdict → ToolOutcome
  | .answered outcome => outcome
  | .panicked message => panicOutcome tool message

end ToolBody

end AgentDesk
