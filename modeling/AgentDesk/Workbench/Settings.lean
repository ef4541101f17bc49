import AgentDesk.Files
import AgentDesk.Tool
/-!
# What the tools of a workbench share

The tools work in a directory of a file tree. They refuse to write to protected locations.

## Main definitions

* `WorkbenchSettings` — the working directory and what the shell may do.
* `WorkbenchSettings.resolve`, `WorkbenchSettings.refusal?`.
* `ChangeSummary` — what is told about a file that was written.
-/

namespace AgentDesk

/-- The settings of a workbench. The time that a command of the shell may take is in
milliseconds. -/
structure WorkbenchSettings where
  directory : Path
  home : Option Path
  blockedCommands : List String
  shellTimeout : Nat
deriving Repr, BEq, Inhabited

namespace WorkbenchSettings

/-- The path that a text means. -/
def resolve (s : WorkbenchSettings) (raw : String) : Path := Path.resolve s.home s.directory raw

/-- The path that a text means; the working directory for no text. -/
def resolveOrHere (s : WorkbenchSettings) (raw : String) : Path :=
  s.resolve (if raw.isEmpty then "." else raw)

/-- Why a tool may not write to a path. -/
def refusal? (s : WorkbenchSettings) (tool : String) (path : Path) : Option ToolFailure :=
  (Path.guardedBy? s.home path).map fun location =>
    .denied tool s!"writing under {location} is not allowed"

end WorkbenchSettings

/-- What a run of a tool leaves behind. -/
abbrev ToolRun := ToolOutcome × FileTree

namespace ToolRun

/-- A run that left the files alone. -/
def reading (files : FileTree) (outcome : ToolOutcome) : ToolRun := (outcome, files)

/-- A run that answers with an error for the model. -/
def refused (files : FileTree) (message : String) : ToolRun := (.ok (.error message), files)

end ToolRun

/-- The schema of a parameter. -/
def parameter (kind description : String) : Json :=
  Json.sorted [("type", .string kind), ("description", .string description)]

end AgentDesk
