import AgentDesk.Provider
import AgentDesk.Table
/-!
# Decoding the events of the Messages API

The API announces the content of an answer block by block. A block is known by its index; the
decoder keeps the tool calls whose blocks are open, collects what was said, and sums it up when
the answer is complete. Events that it does not know are skipped.

## Main definitions

* `Anthropic.Decoder`, `Anthropic.Decoder.step`.
-/

namespace AgentDesk.Anthropic

/-- What was decoded so far. Nothing is decoded behind the end. -/
structure Decoder where
  content : String
  openCalls : Table Nat ToolCall
  calls : List ToolCall
  tokens : Tokens
  stopReason : Option String
  ended : Bool
deriving Repr, BEq, DecidableEq, Inhabited

/-- Why the model stopped. -/
def finishReason : Option String → FinishReason
  | some "max_tokens" => .maxTokens
  | some "tool_use" => .toolUse
  | _ => .endTurn

namespace Decoder

/-- The decoder at the start of a stream. -/
def start : Decoder := ⟨"", [], [], .zero, none, false⟩

/-- A text in an event; none counts as empty. -/
def textOf (name : String) (v : Json) : String := (v.member name).text?.getD ""

/-- A count in an event; none counts as nothing. -/
def countOf (name : String) (v : Json) : Nat := (v.member name).nat?.getD 0

/-- The counts at the start of an answer. -/
def openingTokens (usage : Json) : Tokens :=
  ⟨countOf "input_tokens" usage, countOf "output_tokens" usage,
    countOf "cache_creation_input_tokens" usage, countOf "cache_read_input_tokens" usage⟩

/-- What the decoder says about an event, and what it is afterwards. -/
abbrev Result := List StreamEvent × Decoder

/-- A block opens. -/
def openBlock (d : Decoder) (index : Nat) (block : Json) : Result :=
  if textOf "type" block == "tool_use" then
    let call : ToolCall := ⟨textOf "id" block, textOf "name" block, "", false⟩
    ([.toolStart call], { d with openCalls := Table.put index call d.openCalls })
  else ([], d)

/-- A block grows. -/
def growBlock (d : Decoder) (index : Nat) (delta : Json) : Result :=
  match textOf "type" delta with
  | "text_delta" =>
    let text := textOf "text" delta
    ([.content text], { d with content := d.content ++ text })
  | "thinking_delta" => ([.thinking (textOf "thinking" delta)], d)
  | "signature_delta" => ([.signature (textOf "signature" delta)], d)
  | "input_json_delta" =>
    let text := textOf "partial_json" delta
    match Table.get? index d.openCalls with
    | some call =>
      let call := { call with input := call.input ++ text }
      ([.toolDelta call.id text], { d with openCalls := Table.put index call d.openCalls })
    | none => ([], d)
  | _ => ([], d)

/-- A block closes. -/
def closeBlock (d : Decoder) (index : Nat) : Result :=
  match Table.get? index d.openCalls with
  | some call =>
    ([.toolStop call.id],
      { d with
        openCalls := Table.erase index d.openCalls
        calls := d.calls ++ [{ call with finished := true }] })
  | none => ([], d)

/-- What is known of the whole answer changes. -/
def changeAnswer (d : Decoder) (event : Json) : Decoder :=
  let output := ((event.member "usage").member "output_tokens").nat?
  { d with
    stopReason := ((event.member "delta").member "stop_reason").text?.or d.stopReason
    tokens := { d.tokens with output := output.getD d.tokens.output } }

/-- The summary of what was decoded. -/
def answer (d : Decoder) : Answer := ⟨d.content, d.calls, d.tokens, finishReason d.stopReason⟩

/-- The failure that an event reports. -/
def reported (error : Json) : ProviderFailure :=
  let kind := (error.member "type").text?.getD "error"
  let message := textOf "message" error
  .interrupted s!"{kind}: {message}"

/-- Decodes one event. -/
def step (d : Decoder) (event : Json) : Result :=
  let index := countOf "index" event
  match textOf "type" event with
  | "message_start" =>
    ([], { d with tokens := openingTokens ((event.member "message").member "usage") })
  | "content_block_start" => d.openBlock index (event.member "content_block")
  | "content_block_delta" => d.growBlock index (event.member "delta")
  | "content_block_stop" => d.closeBlock index
  | "message_delta" => ([], d.changeAnswer event)
  | "message_stop" =>
    ([.complete d.answer], { d with content := "", calls := [], ended := true })
  | "error" => ([.failed (reported (event.member "error"))], { d with ended := true })
  | _ => ([], d)

end Decoder

end AgentDesk.Anthropic
