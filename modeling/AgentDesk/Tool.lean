import AgentDesk.Provider
import AgentDesk.Text.Blank
/-!
# Tools

A tool is called with a JSON text and answers with a text, which may report a failure that the
model can mend; a call that does not run at all is a `ToolFailure`.

## Main definitions

* `Invocation` — a call as a tool sees it.
* `ToolResponse` — what a tool that ran answers.
* `ToolInfo` — the name, description and parameters of a tool.
-/

namespace AgentDesk

/-- A call as a tool sees it. -/
structure Invocation where
  id : String
  name : String
  input : String
deriving Repr, BEq, DecidableEq, Inhabited

/-- What a tool that ran answers. The metadata is a JSON text that the model does not see. -/
structure ToolResponse where
  content : String
  metadata : Option String
  isError : Bool
deriving Repr, BEq, DecidableEq, Inhabited

/-- The outcome of a call. -/
abbrev ToolOutcome := Except ToolFailure ToolResponse

/-- What is told about a tool. -/
structure ToolInfo where
  name : String
  description : String
  parameters : List (String × Json)
  required : List String
deriving Repr, Inhabited

namespace ToolResponse

/-- A successful answer. -/
def text (content : String) : ToolResponse := ⟨content, none, false⟩

/-- An answer that reports a failure. -/
def error (content : String) : ToolResponse := ⟨content, none, true⟩

/-- Attaches metadata. -/
def withMetadata (metadata : Json) (r : ToolResponse) : ToolResponse :=
  { r with metadata := some metadata.compact }

/-- A tool response as JSON. -/
def toJson (r : ToolResponse) : Json := .object <|
  [("content", .string r.content)] ++ Json.given "metadata" .string r.metadata ++
  [("is_error", .bool r.isError)]

/-- Reads a tool response. -/
def shape : Shape ToolResponse := fun r d => do
  let fields ← d.record? ["content", "metadata", "is_error"] r
  pure ⟨← fields.required? "content" Document.text?,
    ← fields.orDefault? "metadata" (Document.nullable? Document.text?) none,
    ← fields.orDefault? "is_error" Document.truth? false⟩

end ToolResponse

namespace Invocation

/-- A call as JSON. -/
def toJson (c : Invocation) : Json := .object
  [("id", .string c.id), ("name", .string c.name), ("input", .string c.input)]

/-- Reads a call. -/
def shape : Shape Invocation := fun r d => do
  let fields ← d.record? ["id", "name", "input"] r
  pure ⟨← fields.required? "id" Document.text?, ← fields.required? "name" Document.text?,
    ← fields.required? "input" Document.text?⟩

/-- What is said of an input that holds no parameters of the tool. -/
def unreadable : String := "the input does not hold the parameters of the tool"

/-- Reads the parameters of a call; a blank input stands for an object without members. -/
def parameters? (f : Shape α) (c : Invocation) : Except ToolFailure α :=
  let raw := if Text.isBlankText c.input then "\x7b\x7d" else c.input
  match f.parse? raw with
  | some a => .ok a
  | none => .error (.arguments s!"error parsing parameters for {c.name}: {unreadable}")

end Invocation

namespace ToolInfo

/-- The definition of a tool for a model. -/
def definition (i : ToolInfo) : ToolDefinition :=
  ⟨i.name, i.description, Json.sorted
    [("type", .string "object"), ("properties", Json.sorted i.parameters),
      ("required", Json.strings i.required)]⟩

end ToolInfo

end AgentDesk
