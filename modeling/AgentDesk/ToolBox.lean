import AgentDesk.Text.Quoted
import AgentDesk.Tool
/-!
# Tool boxes

A tool box holds tools under their names, each with what is told about it. The tools are kept in
the order of their names, so that a model sees them in the same order whenever it is asked.

## Main definitions

* `ToolBox`, `ToolBox.register`, `ToolBox.get?`, `ToolBox.only`.
* `ToolBox.names`, `ToolBox.definitions`.
-/

namespace AgentDesk

/-- A tool with what is told about it. -/
structure BoxedTool (α : Type) where
  info : ToolInfo
  tool : α

/-- The tools of a box in the order of their names. -/
structure ToolBox (α : Type) where
  tools : List (BoxedTool α)

namespace ToolBox

variable {α β : Type}

/-- The box without tools. -/
def empty : ToolBox α := ⟨[]⟩

/-- Puts a tool among tools that are ordered by name; it replaces one of the same name. -/
def insert (t : BoxedTool α) : List (BoxedTool α) → List (BoxedTool α)
  | [] => [t]
  | u :: rest =>
    if t.info.name == u.info.name then t :: rest
    else if t.info.name < u.info.name then t :: u :: rest
    else u :: insert t rest

/-- Puts a tool into the box; it replaces one of the same name. -/
def register (info : ToolInfo) (tool : α) (b : ToolBox α) : ToolBox α :=
  ⟨insert ⟨info, tool⟩ b.tools⟩

/-- A box with given tools; of two with one name the later one counts. -/
def ofList (tools : List (ToolInfo × α)) : ToolBox α :=
  tools.foldl (fun b t => b.register t.1 t.2) empty

/-- The tool of a name. -/
def get? (b : ToolBox α) (name : String) : Option α :=
  (b.tools.find? (·.info.name == name)).map (·.tool)

/-- The tools that a list names. -/
def only (allowed : List String) (b : ToolBox α) : ToolBox α :=
  ⟨b.tools.filter fun t => allowed.elem t.info.name⟩

/-- A box whose tools are changed. -/
def map (f : α → β) (b : ToolBox α) : ToolBox β := ⟨b.tools.map fun t => ⟨t.info, f t.tool⟩⟩

/-- The names of the tools in order. -/
def names (b : ToolBox α) : List String := b.tools.map (·.info.name)

/-- What a model is told about the tools, in the order of their names. -/
def definitions (b : ToolBox α) : List ToolDefinition := b.tools.map (·.info.definition)

/-- The number of tools. -/
def size (b : ToolBox α) : Nat := b.tools.length

/-- The text that shows a box. -/
def describe (b : ToolBox α) : String :=
  s!"ToolRegistry \x7b tools: {Text.quotedList b.names} \x7d"

end ToolBox

end AgentDesk
