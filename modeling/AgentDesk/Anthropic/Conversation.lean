import AgentDesk.Provider
import AgentDesk.Text.Base64
/-!
# Conversations for the Messages API

The Messages API knows two speakers. What a user attaches, says, and what the tools answer is said
by the user; the assistant thinks, talks and uses tools. System messages are left out, because the
system prompt has a place of its own, and so is a message that has nothing to say.

Reasoning is sent back only with its signature.

## Main definitions

* `Anthropic.Block`, `Anthropic.Entry`.
* `Anthropic.conversation` — the entries for a list of messages.
-/

namespace AgentDesk.Anthropic

/-- One block of an entry. The data of an image are written in base 64. -/
inductive Block where
  | text (text : String)
  | image (mimeType data : String)
  | thinking (thinking signature : String)
  | toolUse (id name : String) (input : Json)
  | toolResult (callId content : String) (isError : Bool)
deriving Inhabited

/-- Who speaks. -/
inductive Speaker where
  | user
  | assistant
deriving Repr, BEq, DecidableEq, Inhabited

/-- The written name of a speaker. -/
def Speaker.name : Speaker → String
  | .user => "user"
  | .assistant => "assistant"

/-- What one of the speakers says. -/
structure Entry where
  speaker : Speaker
  blocks : List Block
deriving Inhabited

namespace Block

/-- The block of a text that is not empty. -/
def ofText (text : String) : List Block := if text.isEmpty then [] else [.text text]

/-- The block of an attached file. -/
def ofBinary (file : Binary) : Block := .image file.mimeType (Text.base64 file.data)

/-- The block of reasoning that is signed. -/
def ofReasoning (r : Option Reasoning) : List Block :=
  match r with
  | some r => if r.signature.isEmpty then [] else [.thinking r.thinking r.signature]
  | none => []

/-- The block of a tool call. An input that is not JSON counts as no parameters. -/
def ofCall (call : ToolCall) : Block :=
  .toolUse call.id call.name ((Json.parse? call.input).getD (.object []))

/-- The block of a tool result. -/
def ofResult (r : ToolResult) : Block := .toolResult r.callId r.content r.isError

/-- The blocks of a message. -/
def ofMessage (m : Message) : List Block :=
  match m.role with
  | .system => []
  | .user => m.binaries.map ofBinary ++ ofText m.content
  | .assistant => ofReasoning m.reasoning? ++ ofText m.content ++ m.toolCalls.map ofCall
  | .tool => m.toolResults.map ofResult

/-- A block as JSON. -/
def toJson : Block → Json
  | .text said => Json.sorted [("type", .string "text"), ("text", .string said)]
  | .image mimeType data => Json.sorted [("type", .string "image"),
      ("source", Json.sorted [("type", .string "base64"), ("media_type", .string mimeType),
        ("data", .string data)])]
  | .thinking thought signature => Json.sorted [("type", .string "thinking"),
      ("thinking", .string thought), ("signature", .string signature)]
  | .toolUse id name input => Json.sorted [("type", .string "tool_use"), ("id", .string id),
      ("name", .string name), ("input", input)]
  | .toolResult callId content isError => Json.sorted [("type", .string "tool_result"),
      ("tool_use_id", .string callId), ("content", .string content), ("is_error", .bool isError)]

end Block

/-- Who speaks in a message. -/
def Speaker.ofRole : Role → Speaker
  | .assistant => .assistant
  | _ => .user

namespace Entry

/-- The entry for a message; none if it has nothing to say. -/
def ofMessage? (m : Message) : Option Entry :=
  match Block.ofMessage m with
  | [] => none
  | blocks => some ⟨.ofRole m.role, blocks⟩

/-- An entry as JSON. -/
def toJson (e : Entry) : Json := Json.sorted
  [("role", .string e.speaker.name), ("content", .array (e.blocks.map Block.toJson))]

end Entry

/-- The entries for a list of messages. -/
def conversation (messages : List Message) : List Entry := messages.filterMap Entry.ofMessage?

end AgentDesk.Anthropic
