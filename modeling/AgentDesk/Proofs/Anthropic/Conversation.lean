import AgentDesk.Anthropic.Conversation
import AgentDesk.Proofs.Turn.Pairing
/-!
# What is kept when messages become a conversation

Each message that has something to send becomes one entry, in order. Four roles become two speakers,
and messages with nothing to send are left out; still every tool call has its result right behind it
if it had in the list of messages, for neither of the two messages is ever left out.

## Main definitions

* `Message.Sends` — a message has something to send.
* `Conveys` — an entry says what a message says.
* `Followed` — whatever asks is directly followed by what answers it.
-/

namespace AgentDesk

/-! ## Neighbours -/

section Followed

variable {α β : Type} {asks : α → Prop} {answers : α → α → Prop}

/-- Whatever asks is directly followed by what answers it. -/
def Followed (asks : α → Prop) (answers : α → α → Prop) : List α → Prop
  | [] => True
  | a :: rest => (asks a → ∃ b ∈ rest.head?, answers a b) ∧ Followed asks answers rest

/-- **Neighbours stay neighbours when some elements are left out**, if neither what asks nor what
answers is. -/
theorem Followed.filterMap {f : α → Option β} {asks' : β → Prop} {answers' : β → β → Prop}
    {l : List α} (h : Followed asks answers l) (hasks : ∀ a b, f a = some b → asks' b → asks a)
    (hanswers : ∀ a b a', f a = some b → asks' b → answers a a' →
      ∃ b', f a' = some b' ∧ answers' b b') :
    Followed asks' answers' (l.filterMap f) := by
  induction l with
  | nil => trivial
  | cons a rest ih =>
    obtain ⟨hhead, hrest⟩ := h
    cases hb : f a with
    | none =>
      rw [List.filterMap_cons_none hb]
      exact ih hrest
    | some b =>
      rw [List.filterMap_cons_some hb]
      refine ⟨fun hask => ?_, ih hrest⟩
      obtain ⟨a', ha', hanswer⟩ := hhead (hasks a b hb hask)
      obtain ⟨b', hb', hanswer'⟩ := hanswers a b a' hb hask hanswer
      obtain ⟨more, rfl⟩ := List.head?_eq_some_iff.mp ha'
      exact ⟨b', by rw [List.filterMap_cons_some hb']; rfl, hanswer'⟩

end Followed

/-- A message has something to send: a signed thought, a text, a file or a call, or the result of
one. What the role does not send does not count, and the system sends nothing. -/
def Message.Sends (m : Message) : Prop :=
  match m.role with
  | .system => False
  | .user => m.binaries ≠ [] ∨ m.content ≠ ""
  | .assistant =>
    (∃ r, m.reasoning? = some r ∧ r.signature ≠ "") ∨ m.content ≠ "" ∨ m.toolCalls ≠ []
  | .tool => m.toolResults ≠ []

/-- A message of a tool answers the calls of another message, each once. -/
def Message.AnswersAll (m t : Message) : Prop :=
  t.role = .tool ∧ (t.toolResults.map (·.callId)).Perm m.callIds

namespace Anthropic

variable {m t : Message} {e : Entry}

/-- The identifier of a call. -/
def Block.callId? : Block → Option String
  | .toolUse id _ _ => some id
  | _ => none

/-- The identifier of the call whose result this is. -/
def Block.resultId? : Block → Option String
  | .toolResult id _ _ => some id
  | _ => none

namespace Entry

/-- The identifiers of the calls in an entry. -/
def callIds (e : Entry) : List String := e.blocks.filterMap Block.callId?

/-- The identifiers of the calls whose results are in an entry. -/
def resultIds (e : Entry) : List String := e.blocks.filterMap Block.resultId?

/-- An entry of the user holds the results of the calls in another entry, each once. -/
def AnswersAll (e e' : Entry) : Prop :=
  e'.speaker.name = "user" ∧ e'.resultIds.Perm e.callIds

end Entry

/-- The text of a message as it is sent. -/
def TextSent (m : Message) (blocks : List Block) : Prop :=
  (m.content ≠ "" ∧ blocks = [.text m.content]) ∨ (m.content = "" ∧ blocks = [])

/-- The thought of a message as it is sent, only with its signature. -/
def ThoughtSent (m : Message) (blocks : List Block) : Prop :=
  (∃ r, m.reasoning? = some r ∧ r.signature ≠ "" ∧ blocks = [.thinking r.thinking r.signature]) ∨
    ((∀ r, m.reasoning? = some r → r.signature = "") ∧ blocks = [])

/-- An entry says what a message says. The assistant thinks, talks and calls tools, in this order;
everyone else is the user, who shows files and talks, or brings the results of the tools. -/
structure Conveys (m : Message) (e : Entry) : Prop where
  blocks_ne_nil : e.blocks ≠ []
  role_ne_system : m.role ≠ .system
  assistant : m.role = .assistant → e.speaker.name = "assistant" ∧
    ∃ thought text calls, e.blocks = thought ++ text ++ calls ∧ ThoughtSent m thought ∧
      TextSent m text ∧ calls = m.toolCalls.map fun call =>
        .toolUse call.id call.name ((Json.parse? call.input).getD (.object []))
  others : m.role ≠ .assistant → e.speaker.name = "user"
  user : m.role = .user → ∃ files text, e.blocks = files ++ text ∧ TextSent m text ∧
    files = m.binaries.map fun file => .image file.mimeType (Text.base64 file.data)
  tool : m.role = .tool →
    e.blocks = m.toolResults.map fun r => .toolResult r.callId r.content r.isError

/-! ## Single messages -/

theorem textSent_ofText (m : Message) : TextSent m (Block.ofText m.content) := by
  rw [Block.ofText]
  split
  · rename_i hempty
    exact .inr ⟨String.isEmpty_iff.mp hempty, rfl⟩
  · rename_i hsome
    exact .inl ⟨fun h => hsome (String.isEmpty_iff.mpr h), rfl⟩

theorem thoughtSent_ofReasoning (m : Message) :
    ThoughtSent m (Block.ofReasoning m.reasoning?) := by
  cases hr : m.reasoning? with
  | none => exact .inr ⟨by simp [hr], rfl⟩
  | some r =>
    by_cases hsigned : r.signature = ""
    · exact .inr ⟨by simp [hr, hsigned], by simp [Block.ofReasoning, hsigned]⟩
    · exact .inl ⟨r, hr, hsigned, by simp [Block.ofReasoning, hsigned]⟩

theorem TextSent.ne_nil_iff {blocks : List Block} (h : TextSent m blocks) :
    blocks ≠ [] ↔ m.content ≠ "" := by
  rcases h with ⟨hsome, rfl⟩ | ⟨hempty, rfl⟩
  · simp [hsome]
  · simp [hempty]

theorem ThoughtSent.ne_nil_iff {blocks : List Block} (h : ThoughtSent m blocks) :
    blocks ≠ [] ↔ ∃ r, m.reasoning? = some r ∧ r.signature ≠ "" := by
  rcases h with ⟨r, hr, hsigned, rfl⟩ | ⟨hnone, rfl⟩
  · exact iff_of_true (List.cons_ne_nil _ _) ⟨r, hr, hsigned⟩
  · exact iff_of_false (by simp) fun ⟨r, hr, hsigned⟩ => hsigned (hnone r hr)

/-- **A message has something to send exactly if it becomes blocks.** -/
theorem sends_iff : m.Sends ↔ Block.ofMessage m ≠ [] := by
  have htext := (textSent_ofText m).ne_nil_iff
  have hthought := (thoughtSent_ofReasoning m).ne_nil_iff
  rw [Message.Sends, Block.ofMessage]
  cases m.role with
  | system => simp
  | user =>
    dsimp only
    rw [← htext, ne_eq, ne_eq, ne_eq, List.append_eq_nil_iff, List.map_eq_nil_iff, not_and_or]
  | assistant =>
    dsimp only
    rw [← htext, ← hthought, ne_eq, ne_eq, ne_eq, ne_eq, List.append_eq_nil_iff,
      List.append_eq_nil_iff, List.map_eq_nil_iff, not_and_or, not_and_or, or_assoc]
  | tool => simp

theorem ofMessage?_eq_some_iff : Entry.ofMessage? m = some e ↔
    m.Sends ∧ e = ⟨.ofRole m.role, Block.ofMessage m⟩ := by
  rw [sends_iff, Entry.ofMessage?]
  cases hblocks : Block.ofMessage m with
  | nil => simp
  | cons block blocks => simp [eq_comm]

/-- **What a message sends conveys it.** -/
theorem conveys_of_sends (h : m.Sends) : Conveys m ⟨.ofRole m.role, Block.ofMessage m⟩ where
  blocks_ne_nil := sends_iff.mp h
  role_ne_system hrole := by
    rw [Message.Sends, hrole] at h
    exact h
  assistant hrole := by
    refine ⟨by rw [hrole]; rfl, Block.ofReasoning m.reasoning?, Block.ofText m.content,
      m.toolCalls.map Block.ofCall, ?_, thoughtSent_ofReasoning m, textSent_ofText m, rfl⟩
    rw [Block.ofMessage, hrole]
  others hrole := by
    cases hm : m.role with
    | assistant => exact absurd hm hrole
    | _ => rfl
  user hrole := by
    refine ⟨m.binaries.map Block.ofBinary, Block.ofText m.content, ?_, textSent_ofText m, rfl⟩
    rw [Block.ofMessage, hrole]
  tool hrole := by
    rw [Block.ofMessage, hrole]
    rfl

/-! ## Calls and results -/

theorem TextSent.callIds {blocks : List Block} (h : TextSent m blocks) :
    blocks.filterMap Block.callId? = [] := by
  rcases h with ⟨-, rfl⟩ | ⟨-, rfl⟩ <;> rfl

theorem ThoughtSent.callIds {blocks : List Block} (h : ThoughtSent m blocks) :
    blocks.filterMap Block.callId? = [] := by
  rcases h with ⟨r, -, -, rfl⟩ | ⟨-, rfl⟩ <;> rfl

/-- **An entry has the calls of the message that it conveys**, if this is one of the assistant. -/
theorem Conveys.callIds (h : Conveys m e) :
    e.callIds = if m.role = .assistant then m.callIds else [] := by
  rw [Entry.callIds]
  cases hrole : m.role with
  | system => exact absurd hrole h.role_ne_system
  | user =>
    obtain ⟨files, text, hblocks, htext, rfl⟩ := h.user hrole
    rw [hblocks, List.filterMap_append, htext.callIds, List.append_nil, List.filterMap_map]
    exact List.filterMap_eq_nil_iff.mpr fun file _ => rfl
  | assistant =>
    obtain ⟨-, thought, text, calls, hblocks, hthought, htext, rfl⟩ := h.assistant hrole
    rw [hblocks, List.filterMap_append, List.filterMap_append, hthought.callIds, htext.callIds,
      List.filterMap_map, if_pos rfl, Message.callIds, ← List.filterMap_eq_map]
    rfl
  | tool =>
    rw [h.tool hrole, List.filterMap_map]
    exact List.filterMap_eq_nil_iff.mpr fun r _ => rfl

theorem Conveys.resultIds (h : Conveys m e) (hrole : m.role = .tool) :
    e.resultIds = m.toolResults.map (·.callId) := by
  rw [Entry.resultIds, h.tool hrole, List.filterMap_map, ← List.filterMap_eq_map]
  rfl

/-! ## Lists of messages -/

instance (m : Message) : Decidable m.Sends := decidable_of_iff _ sends_iff.symm

/-- **A conversation conveys, in order, each message that has something to send.** If each message
with calls is directly followed by one that answers them, then so is each entry with calls. -/
theorem conversation_conveys (messages : List Message) :
    List.Forall₂ Conveys (messages.filter (·.Sends)) (conversation messages) ∧
    (Followed Message.asks Message.AnswersAll messages →
      Followed (·.callIds ≠ []) Entry.AnswersAll (conversation messages)) := by
  constructor
  · induction messages with
    | nil => exact .nil
    | cons m rest ih =>
      rw [conversation, List.filterMap_cons, List.filter_cons]
      by_cases hsends : m.Sends
      · rw [ofMessage?_eq_some_iff.mpr ⟨hsends, rfl⟩, if_pos (by simpa using hsends)]
        exact .cons (conveys_of_sends hsends) ih
      · have hnone : Entry.ofMessage? m = none :=
          Option.eq_none_iff_forall_ne_some.mpr fun e he => hsends (ofMessage?_eq_some_iff.mp he).1
        rw [hnone, if_neg (by simpa using hsends)]
        exact ih
  · intro hfollowed
    refine hfollowed.filterMap (fun m e he hcalls => ?_) fun m e t he hcalls hanswers => ?_
    · -- Only a message of the assistant becomes an entry with calls.
      obtain ⟨hsends, rfl⟩ := ofMessage?_eq_some_iff.mp he
      rw [(conveys_of_sends hsends).callIds] at hcalls
      split at hcalls
      · rename_i hrole
        exact ⟨hrole, fun hnil => hcalls (Message.callIds_eq_nil.mpr hnil)⟩
      · exact absurd rfl hcalls
    · -- The answer holds a result, so that it is sent as well.
      obtain ⟨hsends, rfl⟩ := ofMessage?_eq_some_iff.mp he
      obtain ⟨hrole, hperm⟩ := hanswers
      rw [(conveys_of_sends hsends).callIds] at hcalls
      split at hcalls
      · rename_i hassistant
        have hresults : t.toolResults ≠ [] := fun hnil => hcalls (by simpa [hnil] using hperm.symm)
        have hsends' : t.Sends := by
          rw [Message.Sends, hrole]
          exact hresults
        have hconveys := conveys_of_sends hsends'
        refine ⟨_, ofMessage?_eq_some_iff.mpr ⟨hsends', rfl⟩, hconveys.others (by simp [hrole]), ?_⟩
        rwa [hconveys.resultIds hrole, (conveys_of_sends hsends).callIds, if_pos hassistant]
      · exact absurd rfl hcalls

/-- A message with given parts. -/
def saying (role : Role) (parts : List Part) : Message :=
  Draft.toMessage ⟨role, parts, none, none⟩ "m" "s" default

/-- Two calls are answered in another order, and then the assistant is stopped before it says
anything.
-/
def stoppedTalk : List Message :=
  [saying .system [.text "Be brief."],
    saying .user [.text "Look."],
    saying .assistant [.reasoning ⟨"Hm.", "", default, none⟩, .toolCall ⟨"c1", "ls", "", true⟩,
      .toolCall ⟨"c2", "ls", "", true⟩],
    saying .tool [.toolResult ⟨"c2", "ls", "b", none, false⟩,
      .toolResult ⟨"c1", "ls", "a", none, true⟩],
    saying .assistant [.finish ⟨.canceled, "", "", default⟩],
    saying .user [.text "Go on."]]

/-- Four entries are left of the six messages, and the calls are answered in them. -/
theorem conversation_stoppedTalk : (conversation stoppedTalk).length = 4 ∧
    (conversation stoppedTalk).map Entry.callIds = [[], ["c1", "c2"], [], []] ∧
    (conversation stoppedTalk).map Entry.resultIds = [[], [], ["c2", "c1"], []] ∧
    Followed (·.callIds ≠ []) Entry.AnswersAll (conversation stoppedTalk) := by
  have hfollowed : Followed Message.asks Message.AnswersAll stoppedTalk := by
    refine ⟨nofun, nofun, fun _ => ⟨_, rfl, rfl, ?_⟩, nofun, fun h => absurd rfl h.2, nofun,
      trivial⟩
    exact .swap "c1" "c2" []
  exact ⟨by decide, by decide, by decide, (conversation_conveys stoppedTalk).2 hfollowed⟩

end Anthropic

end AgentDesk
