import AgentDesk.Timestamp
/-!
# Messages

A message is an ordered list of typed parts. The assistant's messages grow while a model answers:
text and reasoning are extended, tool calls are recorded, extended and finished, and a finish part
closes the message.

The list of parts implements a record with one text, one reasoning block, one finish part and an
ordered list of tool calls: every operation changes the first part of its kind, or puts a new one
at the end.

## Main definitions

* `Role`, `FinishReason`, `Reasoning`, `ToolCall`, `ToolResult`, `Binary`, `Finish`, `Part`.
* `Message` and its accessors `content`, `reasoning?`, `toolCalls`, `toolResults`, `finish?`.
* `Message.appendContent` and the other operations.
-/

namespace AgentDesk

/-- Who speaks in a message. -/
inductive Role where
  | user
  | assistant
  | system
  | tool
deriving Repr, BEq, DecidableEq, Inhabited

/-- Why the assistant stopped. -/
inductive FinishReason where
  | endTurn
  | maxTokens
  | toolUse
  | canceled
  | error
  | permissionDenied
deriving Repr, BEq, DecidableEq, Inhabited

/-- The model's reasoning with the provider's signature for it. -/
structure Reasoning where
  thinking : String
  signature : String
  startedAt : Timestamp
  finishedAt : Option Timestamp
deriving Repr, BEq, DecidableEq, Inhabited

/-- A tool that the model asks to run. The input is a JSON text, and partial until the call is
finished. -/
structure ToolCall where
  id : String
  name : String
  input : String
  finished : Bool
deriving Repr, BEq, DecidableEq, Inhabited

/-- The answer to a tool call. -/
structure ToolResult where
  callId : String
  name : String
  content : String
  metadata : Option String
  isError : Bool
deriving Repr, BEq, DecidableEq, Inhabited

/-- A file that goes with a message. -/
structure Binary where
  path : String
  mimeType : String
  data : List UInt8
deriving Repr, BEq, DecidableEq, Inhabited

/-- The mark that closes a message. -/
structure Finish where
  reason : FinishReason
  message : String
  details : String
  time : Timestamp
deriving Repr, BEq, DecidableEq, Inhabited

/-- One typed piece of a message. -/
inductive Part where
  | text (text : String)
  | reasoning (block : Reasoning)
  | toolCall (call : ToolCall)
  | toolResult (result : ToolResult)
  | binary (file : Binary)
  | finish (mark : Finish)
deriving Repr, BEq, DecidableEq, Inhabited

/-- A message of a session. The model and the provider label what an assistant or a tool said. -/
structure Message where
  id : String
  sessionId : String
  role : Role
  parts : List Part
  model : Option String
  provider : Option String
  createdAt : Timestamp
  updatedAt : Timestamp
deriving Repr, BEq, DecidableEq, Inhabited

/-- What a message is made from when a store creates it. -/
structure Draft where
  role : Role
  parts : List Part
  model : Option String := none
  provider : Option String := none
deriving Repr, BEq, DecidableEq, Inhabited

/-- The message made from a draft. -/
def Draft.toMessage (d : Draft) (id sessionId : String) (now : Timestamp) : Message :=
  ⟨id, sessionId, d.role, d.parts, d.model, d.provider, now, now⟩

namespace Part

/-- The text, if the part is a text. -/
def text? : Part → Option String
  | .text t => some t
  | _ => none

/-- The reasoning, if the part is reasoning. -/
def reasoning? : Part → Option Reasoning
  | .reasoning r => some r
  | _ => none

/-- The call, if the part is a tool call. -/
def toolCall? : Part → Option ToolCall
  | .toolCall c => some c
  | _ => none

/-- The result, if the part is a tool result. -/
def toolResult? : Part → Option ToolResult
  | .toolResult r => some r
  | _ => none

/-- The file, if the part is one. -/
def binary? : Part → Option Binary
  | .binary b => some b
  | _ => none

/-- The mark, if the part is a finish part. -/
def finish? : Part → Option Finish
  | .finish f => some f
  | _ => none

end Part

/-- Changes the first element that `f` accepts; `none` if it accepts none. -/
def changeFirst? (f : α → Option α) : List α → Option (List α)
  | [] => none
  | a :: as =>
    match f a with
    | some b => some (b :: as)
    | none => (changeFirst? f as).map (a :: ·)

/-- Changes the first element that `f` accepts, or puts `fresh` at the end. -/
def changeFirstOr (f : α → Option α) (fresh : α) (as : List α) : List α :=
  (changeFirst? f as).getD (as ++ [fresh])

namespace Message

/-! ## Accessors -/

/-- The visible text; empty if there is none. -/
def content (m : Message) : String := (m.parts.findSome? Part.text?).getD ""

/-- The reasoning. -/
def reasoning? (m : Message) : Option Reasoning := m.parts.findSome? Part.reasoning?

/-- The tool calls in order. -/
def toolCalls (m : Message) : List ToolCall := m.parts.filterMap Part.toolCall?

/-- The tool results in order. -/
def toolResults (m : Message) : List ToolResult := m.parts.filterMap Part.toolResult?

/-- The files in order. -/
def binaries (m : Message) : List Binary := m.parts.filterMap Part.binary?

/-- The finish part. -/
def finish? (m : Message) : Option Finish := m.parts.findSome? Part.finish?

/-- Why the message is closed; `none` while it is open. -/
def finishReason? (m : Message) : Option FinishReason := m.finish?.map (·.reason)

/-- Whether the message is closed. -/
def isFinished (m : Message) : Bool := m.finish?.isSome

/-! ## Operations -/

/-- Replaces the parts and notes the time. -/
def withParts (now : Timestamp) (parts : List Part) (m : Message) : Message :=
  { m with parts, updatedAt := now }

/-- Extends the visible text. -/
def appendContent (now : Timestamp) (delta : String) (m : Message) : Message :=
  let extend : Part → Option Part
    | .text t => some (.text (t ++ delta))
    | _ => none
  m.withParts now (changeFirstOr extend (.text delta) m.parts)

/-- Extends the reasoning, or opens it. -/
def extendReasoning (now : Timestamp) (f : Reasoning → Reasoning) (m : Message) : Message :=
  let extend : Part → Option Part
    | .reasoning r => some (.reasoning (f r))
    | _ => none
  m.withParts now (changeFirstOr extend (.reasoning (f ⟨"", "", now, none⟩)) m.parts)

/-- Extends the text of the reasoning. -/
def appendThinking (now : Timestamp) (delta : String) : Message → Message :=
  extendReasoning now fun r => { r with thinking := r.thinking ++ delta }

/-- Extends the signature of the reasoning. -/
def appendSignature (now : Timestamp) (delta : String) : Message → Message :=
  extendReasoning now fun r => { r with signature := r.signature ++ delta }

/-- Closes the reasoning if it is open. -/
def finishThinking (now : Timestamp) (m : Message) : Message :=
  let close : Part → Option Part
    | .reasoning r => some (.reasoning { r with finishedAt := r.finishedAt.or (some now) })
    | _ => none
  { m with parts := (changeFirst? close m.parts).getD m.parts }

/-- Records a tool call; it replaces the first call with the same identifier. -/
def addToolCall (now : Timestamp) (call : ToolCall) (m : Message) : Message :=
  let replace : Part → Option Part
    | .toolCall c => if c.id == call.id then some (.toolCall call) else none
    | _ => none
  m.withParts now (changeFirstOr replace (.toolCall call) m.parts)

/-- Changes the first call with an identifier, if there is one. -/
def changeCall (now : Timestamp) (id : String) (f : ToolCall → ToolCall) (m : Message) : Message :=
  let change : Part → Option Part
    | .toolCall c => if c.id == id then some (.toolCall (f c)) else none
    | _ => none
  m.withParts now ((changeFirst? change m.parts).getD m.parts)

/-- Extends the input of a tool call. -/
def appendToolInput (now : Timestamp) (id delta : String) : Message → Message :=
  changeCall now id fun c => { c with input := c.input ++ delta }

/-- Marks a tool call as finished. -/
def finishToolCall (now : Timestamp) (id : String) : Message → Message :=
  changeCall now id fun c => { c with finished := true }

/-- Replaces all tool calls by `calls`, each marked as finished. -/
def setToolCalls (now : Timestamp) (calls : List ToolCall) (m : Message) : Message :=
  let others := m.parts.filter fun p => p.toolCall?.isNone
  m.withParts now (others ++ calls.map fun c => .toolCall { c with finished := true })

/-- Closes the message; an earlier finish part is removed. -/
def addFinish (now : Timestamp) (reason : FinishReason) (message details : String) (m : Message) :
    Message :=
  let others := m.parts.filter fun p => p.finish?.isNone
  m.withParts now (others ++ [.finish ⟨reason, message, details, now⟩])

end Message

end AgentDesk
