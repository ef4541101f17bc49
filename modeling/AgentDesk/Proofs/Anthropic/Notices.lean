import AgentDesk.Anthropic.Decoder
/-!
# What an event of the Messages API gives notice of

An event is a JSON value, but a decoder looks at a few of its members only. What it finds there is a
notice: a text that is said, a block that opens, grows or closes, the end of the answer. Each notice
changes the decoder in one way.

## Main definitions

* `Anthropic.Notice` and `Anthropic.noticeOf` — the notice that an event gives.
* `Anthropic.Decoder.take` — what a decoder makes of a notice.
-/

namespace AgentDesk

/-- Whether an event ends its stream. -/
def StreamEvent.ends : StreamEvent → Bool
  | .complete _ | .failed _ => true
  | _ => false

namespace Anthropic

open Decoder

/-- What an event gives notice of. -/
inductive Notice where
  /-- The answer begins with these counts. -/
  | begins (tokens : Tokens)
  /-- The block of a tool call opens. -/
  | opens (index : Nat) (id name : String)
  /-- The input of the tool call in a block grows. -/
  | grows (index : Nat) (text : String)
  /-- A block closes. -/
  | closes (index : Nat)
  | tells (text : String)
  | thinks (text : String)
  | signs (text : String)
  /-- The reason to stop and the count of the output are known, or one of them. -/
  | changes (reason : Option String) (output : Option Nat)
  | completes
  | fails (cause : ProviderFailure)
  /-- Nothing that a decoder knows. -/
  | other
deriving DecidableEq

/-- The notice that an event gives. -/
def noticeOf (event : Json) : Notice :=
  let index := countOf "index" event
  match textOf "type" event with
  | "message_start" => .begins (openingTokens ((event.member "message").member "usage"))
  | "content_block_start" =>
    let block := event.member "content_block"
    if textOf "type" block == "tool_use" then .opens index (textOf "id" block) (textOf "name" block)
    else .other
  | "content_block_delta" =>
    let delta := event.member "delta"
    match textOf "type" delta with
    | "text_delta" => .tells (textOf "text" delta)
    | "thinking_delta" => .thinks (textOf "thinking" delta)
    | "signature_delta" => .signs (textOf "signature" delta)
    | "input_json_delta" => .grows index (textOf "partial_json" delta)
    | _ => .other
  | "content_block_stop" => .closes index
  | "message_delta" =>
    .changes ((event.member "delta").member "stop_reason").text?
      ((event.member "usage").member "output_tokens").nat?
  | "message_stop" => .completes
  | "error" => .fails (reported (event.member "error"))
  | _ => .other

namespace Decoder

/-- What a decoder says about a notice, and what it is afterwards. -/
def take (d : Decoder) : Notice → Result
  | .begins tokens => ([], { d with tokens })
  | .opens index id name =>
    ([.toolStart ⟨id, name, "", false⟩],
      { d with openCalls := Table.put index ⟨id, name, "", false⟩ d.openCalls })
  | .grows index text =>
    match Table.get? index d.openCalls with
    | some call =>
      ([.toolDelta call.id text],
        { d with
          openCalls := Table.put index { call with input := call.input ++ text } d.openCalls })
    | none => ([], d)
  | .closes index =>
    match Table.get? index d.openCalls with
    | some call =>
      ([.toolStop call.id],
        { d with
          openCalls := Table.erase index d.openCalls
          calls := d.calls ++ [{ call with finished := true }] })
    | none => ([], d)
  | .tells text => ([.content text], { d with content := d.content ++ text })
  | .thinks text => ([.thinking text], d)
  | .signs text => ([.signature text], d)
  | .changes reason output =>
    ([], { d with
      stopReason := reason.or d.stopReason
      tokens := { d.tokens with output := output.getD d.tokens.output } })
  | .completes => ([.complete d.answer], { d with content := "", calls := [], ended := true })
  | .fails cause => ([.failed cause], { d with ended := true })
  | .other => ([], d)

/-- **A decoder sees no more of an event than its notice.** -/
theorem step_eq_take (d : Decoder) (event : Json) : d.step event = d.take (noticeOf event) := by
  unfold step
  split <;> rename_i hkind
  case h_2 =>
    simp only [noticeOf, hkind]
    unfold openBlock
    split <;> rfl
  case h_3 =>
    unfold growBlock
    -- The notice is opened after the split: it looks at the same kinds as the block does.
    split <;> rename_i hdelta <;> simp only [noticeOf, hkind, hdelta] <;> rfl
  all_goals
    simp only [noticeOf, hkind]
    rfl

/-- **A notice ends the decoding exactly if the stream is told so**: either nothing that is said
ends the stream, and the decoder goes on, or one event is said and it ends the stream. -/
theorem take_cases (d : Decoder) (n : Notice) :
    ((∀ e ∈ (d.take n).1, e.ends = false) ∧ (d.take n).2.ended = d.ended) ∨
      ∃ last, (d.take n).1 = [last] ∧ last.ends ∧ (d.take n).2.ended := by
  cases n with
  | completes => exact .inr ⟨_, rfl, rfl, rfl⟩
  | fails cause => exact .inr ⟨_, rfl, rfl, rfl⟩
  | grows index text | closes index =>
    unfold take
    dsimp only
    split <;> exact .inl ⟨by simp [StreamEvent.ends], rfl⟩
  | _ => exact .inl ⟨by simp [take, StreamEvent.ends], rfl⟩

end Decoder

end Anthropic

end AgentDesk
