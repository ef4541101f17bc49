import AgentDesk.Proofs.Message.Parts
/-!
# What the operations of a message do to its readings

A message is read as a text, a block of reasoning and a list of calls. Each operation works on the
parts of one kind, as if only these were there, and the other readings do not notice it.

## Main definitions

* `ToolCall.recordIn` and `ToolCall.changeIn` — what is done to a list of calls.
* `StreamEvent.onCalls`, `announcedCalls` — what events of a stream do to the calls of a message.
* `TurnPhase.applyEvents` — what they do to the message.
-/

namespace AgentDesk

variable {α β : Type}

/-! ## Changing the first element of a reading -/

/-- The first change among the elements that a reading sees can be made in the reading. -/
theorem changeFirst?_filterMap {f : α → Option α} {g : β → Option β} {read : α → Option β}
    (seen : ∀ a b, read a = some b → (f a).map read = (g b).map some)
    (unseen : ∀ a, read a = none → f a = none) (as : List α) :
    changeFirst? g (as.filterMap read) = (changeFirst? f as).map (List.filterMap read) := by
  induction as with
  | nil => rfl
  | cons a as ih =>
    cases hread : read a with
    | none =>
      rw [List.filterMap_cons_none hread, ih, changeFirst?, unseen a hread]
      cases changeFirst? f as <;> simp [hread]
    | some b =>
      have hseen := seen a b hread
      rw [List.filterMap_cons_some hread, changeFirst?, changeFirst?, ih]
      cases hg : g b with
      | none =>
        rw [hg, Option.map_none, Option.map_eq_none_iff] at hseen
        rw [hseen]
        cases changeFirst? f as <;> simp [hread]
      | some b' =>
        rw [hg, Option.map_some, Option.map_eq_some_iff] at hseen
        obtain ⟨a', hf, hread'⟩ := hseen
        simp [hf, hread']

theorem filterMap_changeFirst?_getD_seen {f : α → Option α} {g : β → Option β}
    {read : α → Option β} (seen : ∀ a b, read a = some b → (f a).map read = (g b).map some)
    (unseen : ∀ a, read a = none → f a = none) (as : List α) :
    ((changeFirst? f as).getD as).filterMap read =
      (changeFirst? g (as.filterMap read)).getD (as.filterMap read) := by
  rw [changeFirst?_filterMap seen unseen]
  cases changeFirst? f as <;> rfl

theorem filterMap_changeFirstOr_seen {f : α → Option α} {g : β → Option β} {read : α → Option β}
    {fresh : α} {fresh' : β} (hfresh : read fresh = some fresh')
    (seen : ∀ a b, read a = some b → (f a).map read = (g b).map some)
    (unseen : ∀ a, read a = none → f a = none) (as : List α) :
    (changeFirstOr f fresh as).filterMap read = changeFirstOr g fresh' (as.filterMap read) := by
  rw [changeFirstOr, changeFirstOr, changeFirst?_filterMap seen unseen]
  cases changeFirst? f as <;> simp [hfresh]

namespace ToolCall

/-! ## Lists of calls -/

/-- The call with more input. -/
def extend (delta : String) (c : ToolCall) : ToolCall := { c with input := c.input ++ delta }

/-- The call marked as finished. -/
def finish (c : ToolCall) : ToolCall := { c with finished := true }

/-- Records a call; it replaces the first call with the same identifier. -/
def recordIn (call : ToolCall) : List ToolCall → List ToolCall :=
  changeFirstOr (fun c => if c.id == call.id then some call else none) call

/-- Changes the first call with an identifier, if there is one. -/
def changeIn (id : String) (f : ToolCall → ToolCall) (calls : List ToolCall) : List ToolCall :=
  (changeFirst? (fun c => if c.id == id then some (f c) else none) calls).getD calls

/-- There is no call with an identifier, or there is a first one. -/
theorem changeFirst?_id_cases (id : String) (f : ToolCall → ToolCall) (calls : List ToolCall) :
    ((∀ c ∈ calls, c.id ≠ id) ∧
      changeFirst? (fun c : ToolCall => if c.id == id then some (f c) else none) calls = none) ∨
    ∃ before c after, calls = before ++ c :: after ∧ (∀ b ∈ before, b.id ≠ id) ∧ c.id = id ∧
      changeFirst? (fun c : ToolCall => if c.id == id then some (f c) else none) calls =
        some (before ++ f c :: after) := by
  induction calls with
  | nil => exact .inl ⟨by simp, rfl⟩
  | cons c calls ih =>
    by_cases hid : c.id = id
    · exact .inr ⟨[], c, calls, rfl, by simp, hid, by simp [changeFirst?, hid]⟩
    · rcases ih with ⟨hnone, heq⟩ | ⟨before, found, after, rfl, hbefore, hfound, heq⟩
      · refine .inl ⟨by simpa [hid] using hnone, ?_⟩
        rw [changeFirst?, if_neg (by simpa using hid), heq]
        rfl
      · exact .inr ⟨c :: before, found, after, rfl, by simpa [hid] using hbefore, hfound,
          by rw [changeFirst?, if_neg (by simpa using hid), heq]; rfl⟩

theorem recordIn_ne_nil (call : ToolCall) (calls : List ToolCall) : call.recordIn calls ≠ [] := by
  unfold recordIn changeFirstOr
  rcases changeFirst?_id_cases call.id (fun _ => call) calls with
    ⟨-, heq⟩ | ⟨before, c, after, -, -, -, heq⟩ <;> rw [heq] <;> simp

theorem changeIn_eq_nil_iff {id : String} {f : ToolCall → ToolCall} {calls : List ToolCall} :
    changeIn id f calls = [] ↔ calls = [] := by
  unfold changeIn
  rcases changeFirst?_id_cases id f calls with
    ⟨-, heq⟩ | ⟨before, c, after, rfl, -, -, heq⟩ <;> rw [heq] <;> simp

/-- A call with an identifier of its own is put at the end. -/
theorem recordIn_of_notMem {call : ToolCall} {calls : List ToolCall}
    (h : call.id ∉ calls.map (·.id)) : call.recordIn calls = calls ++ [call] := by
  have hnone : changeFirst? (fun c : ToolCall => if c.id == call.id then some call else none)
      calls = none := by
    induction calls with
    | nil => rfl
    | cons c calls ih =>
      rw [List.map_cons, List.mem_cons, not_or] at h
      simpa [changeFirst?, Ne.symm h.1] using ih h.2
  rw [recordIn, changeFirstOr, hnone]
  rfl

/-- The change finds the first call with the identifier. -/
theorem changeIn_append_cons {id : String} {before after : List ToolCall} {c : ToolCall}
    (f : ToolCall → ToolCall) (hbefore : ∀ b ∈ before, b.id ≠ id) (hc : c.id = id) :
    changeIn id f (before ++ c :: after) = before ++ f c :: after := by
  have hsome : changeFirst? (fun c : ToolCall => if c.id == id then some (f c) else none)
      (before ++ c :: after) = some (before ++ f c :: after) := by
    induction before with
    | nil => simp [changeFirst?, hc]
    | cons b before ih =>
      have hb : b.id ≠ id := hbefore b List.mem_cons_self
      simpa [changeFirst?, hb] using ih fun b' hb' => hbefore b' (List.mem_cons_of_mem b hb')
  rw [changeIn, hsome]
  rfl

end ToolCall

namespace Message

/-! ## The calls of a message -/

theorem toolCalls_addToolCall (now : Timestamp) (call : ToolCall) (m : Message) :
    (m.addToolCall now call).toolCalls = call.recordIn m.toolCalls := by
  have hfresh : Part.toolCall? (.toolCall call) = some call := rfl
  refine filterMap_changeFirstOr_seen hfresh ?_ ?_ m.parts
  · intro p c hp
    cases p <;> cases hp
    by_cases hid : c.id == call.id <;> simp [hid, Part.toolCall?]
  · intro p hp
    cases p <;> first | rfl | cases hp

theorem toolCalls_changeCall (now : Timestamp) (id : String) (f : ToolCall → ToolCall)
    (m : Message) : (m.changeCall now id f).toolCalls = ToolCall.changeIn id f m.toolCalls := by
  refine filterMap_changeFirst?_getD_seen ?_ ?_ m.parts
  · intro p c hp
    cases p <;> cases hp
    by_cases hid : c.id == id <;> simp [hid, Part.toolCall?]
  · intro p hp
    cases p <;> first | rfl | cases hp

theorem toolCalls_setToolCalls (now : Timestamp) (calls : List ToolCall) (m : Message) :
    (m.setToolCalls now calls).toolCalls = calls.map ToolCall.finish := by
  have hothers : (m.parts.filter fun p => p.toolCall?.isNone).filterMap Part.toolCall? = [] := by
    simp [List.filterMap_eq_nil_iff]
  rw [toolCalls, setToolCalls, withParts, List.filterMap_append, hothers, List.filterMap_map]
  simp [Function.comp_def, Part.toolCall?, ToolCall.finish]

/-! ## The text and the reasoning of a message -/

/-- The texts in order. -/
def texts (m : Message) : List String := m.parts.filterMap Part.text?

/-- The blocks of reasoning in order. -/
def blocks (m : Message) : List Reasoning := m.parts.filterMap Part.reasoning?

/-- The text of the reasoning; empty if there is none. -/
def thinking (m : Message) : String := (m.reasoning?.map (·.thinking)).getD ""

/-- The signature of the reasoning; empty if there is none. -/
def signature (m : Message) : String := (m.reasoning?.map (·.signature)).getD ""

theorem content_eq_head? (m : Message) : m.content = m.texts.head?.getD "" := by
  rw [content, texts, List.head?_filterMap]

theorem reasoning?_eq_head? (m : Message) : m.reasoning? = m.blocks.head? := by
  rw [reasoning?, blocks, List.head?_filterMap]

theorem texts_appendContent (now : Timestamp) (delta : String) (m : Message) :
    (m.appendContent now delta).texts =
      changeFirstOr (fun t => some (t ++ delta)) delta m.texts := by
  have hfresh : Part.text? (.text delta) = some delta := rfl
  refine filterMap_changeFirstOr_seen hfresh ?_ ?_ m.parts
  · intro p t hp
    cases p <;> cases hp
    rfl
  · intro p hp
    cases p <;> first | rfl | cases hp

theorem blocks_extendReasoning (now : Timestamp) (f : Reasoning → Reasoning) (m : Message) :
    (m.extendReasoning now f).blocks =
      changeFirstOr (fun r => some (f r)) (f ⟨"", "", now, none⟩) m.blocks := by
  have hfresh (r : Reasoning) : Part.reasoning? (.reasoning r) = some r := rfl
  refine filterMap_changeFirstOr_seen (hfresh _) ?_ ?_ m.parts
  · intro p r hp
    cases p <;> cases hp
    rfl
  · intro p hp
    cases p <;> first | rfl | cases hp

theorem blocks_finishThinking (now : Timestamp) (m : Message) :
    (m.finishThinking now).blocks = (changeFirst? (fun r : Reasoning =>
      some { r with finishedAt := r.finishedAt.or (some now) }) m.blocks).getD m.blocks := by
  refine filterMap_changeFirst?_getD_seen ?_ ?_ m.parts
  · intro p r hp
    cases p <;> cases hp
    rfl
  · intro p hp
    cases p <;> first | rfl | cases hp

@[simp] theorem content_appendContent (now : Timestamp) (delta : String) (m : Message) :
    (m.appendContent now delta).content = m.content ++ delta := by
  rw [content_eq_head?, content_eq_head?, texts_appendContent]
  cases m.texts <;> simp [changeFirstOr, changeFirst?]

@[simp] theorem reasoning?_extendReasoning (now : Timestamp) (f : Reasoning → Reasoning)
    (m : Message) :
    (m.extendReasoning now f).reasoning? = some (f (m.reasoning?.getD ⟨"", "", now, none⟩)) := by
  rw [reasoning?_eq_head?, reasoning?_eq_head?, blocks_extendReasoning]
  cases m.blocks <;> simp [changeFirstOr, changeFirst?]

@[simp] theorem reasoning?_finishThinking (now : Timestamp) (m : Message) :
    (m.finishThinking now).reasoning? =
      m.reasoning?.map fun r => { r with finishedAt := r.finishedAt.or (some now) } := by
  rw [reasoning?_eq_head?, reasoning?_eq_head?, blocks_finishThinking]
  cases m.blocks <;> simp [changeFirst?]

/-! ## What a reading does not notice -/

variable {g : Part → Option β}

theorem filterMap_appendContent (blind : ∀ t, g (.text t) = none) (now : Timestamp)
    (delta : String) (m : Message) :
    (m.appendContent now delta).parts.filterMap g = m.parts.filterMap g := by
  refine filterMap_changeFirstOr ?_ (blind delta) m.parts
  intro p q h
  cases p <;> cases h
  rw [blind, blind]

theorem filterMap_extendReasoning (blind : ∀ r, g (.reasoning r) = none) (now : Timestamp)
    (f : Reasoning → Reasoning) (m : Message) :
    (m.extendReasoning now f).parts.filterMap g = m.parts.filterMap g := by
  refine filterMap_changeFirstOr ?_ (blind _) m.parts
  intro p q h
  cases p <;> cases h
  rw [blind, blind]

theorem filterMap_finishThinking (blind : ∀ r, g (.reasoning r) = none) (now : Timestamp)
    (m : Message) : (m.finishThinking now).parts.filterMap g = m.parts.filterMap g := by
  refine filterMap_changeFirst?_getD ?_ m.parts
  intro p q h
  cases p <;> cases h
  rw [blind, blind]

theorem filterMap_addToolCall (blind : ∀ c, g (.toolCall c) = none) (now : Timestamp)
    (call : ToolCall) (m : Message) :
    (m.addToolCall now call).parts.filterMap g = m.parts.filterMap g := by
  refine filterMap_changeFirstOr ?_ (blind call) m.parts
  intro p q h
  cases p with
  | toolCall c =>
    by_cases hid : c.id == call.id
    · simp only [hid, if_true, Option.some.injEq] at h
      rw [← h, blind, blind]
    · simp [hid] at h
  | _ => cases h

theorem filterMap_setToolCalls (blind : ∀ c, g (.toolCall c) = none) (now : Timestamp)
    (calls : List ToolCall) (m : Message) :
    (m.setToolCalls now calls).parts.filterMap g = m.parts.filterMap g := by
  have hothers : (m.parts.filter fun p => p.toolCall?.isNone).filterMap g =
      m.parts.filterMap g := by
    induction m.parts with
    | nil => rfl
    | cons p ps ih =>
      cases p <;> simp_all [Part.toolCall?, List.filterMap_cons]
  simp only [setToolCalls, withParts, List.filterMap_append, hothers]
  simp [blind]

theorem content_congr {m m' : Message} (h : m'.texts = m.texts) : m'.content = m.content := by
  rw [content_eq_head?, content_eq_head?, h]

theorem reasoning?_congr {m m' : Message} (h : m'.blocks = m.blocks) :
    m'.reasoning? = m.reasoning? := by
  rw [reasoning?_eq_head?, reasoning?_eq_head?, h]

@[simp] theorem content_extendReasoning (now : Timestamp) (f : Reasoning → Reasoning)
    (m : Message) : (m.extendReasoning now f).content = m.content :=
  content_congr (filterMap_extendReasoning (fun _ => rfl) now f m)

@[simp] theorem content_finishThinking (now : Timestamp) (m : Message) :
    (m.finishThinking now).content = m.content :=
  content_congr (filterMap_finishThinking (fun _ => rfl) now m)

@[simp] theorem content_addToolCall (now : Timestamp) (call : ToolCall) (m : Message) :
    (m.addToolCall now call).content = m.content :=
  content_congr (filterMap_addToolCall (fun _ => rfl) now call m)

@[simp] theorem content_changeCall (now : Timestamp) (id : String) (f : ToolCall → ToolCall)
    (m : Message) : (m.changeCall now id f).content = m.content :=
  content_congr (filterMap_changeCall (f := f) (fun _ => rfl) now id m)

@[simp] theorem content_setToolCalls (now : Timestamp) (calls : List ToolCall) (m : Message) :
    (m.setToolCalls now calls).content = m.content :=
  content_congr (filterMap_setToolCalls (fun _ => rfl) now calls m)

@[simp] theorem content_addFinish (now : Timestamp) (r : FinishReason) (a b : String)
    (m : Message) : (m.addFinish now r a b).content = m.content :=
  content_congr (filterMap_addFinish (fun _ => rfl) now r a b m)

@[simp] theorem reasoning?_appendContent (now : Timestamp) (delta : String) (m : Message) :
    (m.appendContent now delta).reasoning? = m.reasoning? :=
  reasoning?_congr (filterMap_appendContent (fun _ => rfl) now delta m)

@[simp] theorem reasoning?_addToolCall (now : Timestamp) (call : ToolCall) (m : Message) :
    (m.addToolCall now call).reasoning? = m.reasoning? :=
  reasoning?_congr (filterMap_addToolCall (fun _ => rfl) now call m)

@[simp] theorem reasoning?_changeCall (now : Timestamp) (id : String) (f : ToolCall → ToolCall)
    (m : Message) : (m.changeCall now id f).reasoning? = m.reasoning? :=
  reasoning?_congr (filterMap_changeCall (f := f) (fun _ => rfl) now id m)

@[simp] theorem reasoning?_setToolCalls (now : Timestamp) (calls : List ToolCall) (m : Message) :
    (m.setToolCalls now calls).reasoning? = m.reasoning? :=
  reasoning?_congr (filterMap_setToolCalls (fun _ => rfl) now calls m)

@[simp] theorem reasoning?_addFinish (now : Timestamp) (r : FinishReason) (a b : String)
    (m : Message) : (m.addFinish now r a b).reasoning? = m.reasoning? :=
  reasoning?_congr (filterMap_addFinish (fun _ => rfl) now r a b m)

end Message

/-! ## Events of a stream -/

namespace StreamEvent

/-- What an event does to the calls of a message. -/
def onCalls : StreamEvent → List ToolCall → List ToolCall
  | .toolStart c, calls => c.recordIn calls
  | .toolDelta id d, calls => ToolCall.changeIn id (ToolCall.extend d) calls
  | .toolStop id, calls => ToolCall.changeIn id ToolCall.finish calls
  | .complete a, calls => if a.toolCalls = [] then calls else a.toolCalls.map ToolCall.finish
  | .thinking _, calls | .signature _, calls | .content _, calls | .failed _, calls => calls

/-- What an event adds to the text of a message. -/
def text : StreamEvent → String
  | .content d => d
  | _ => ""

/-- What an event adds to the text of the reasoning. -/
def thought : StreamEvent → String
  | .thinking d => d
  | _ => ""

/-- What an event adds to the signature of the reasoning. -/
def signed : StreamEvent → String
  | .signature d => d
  | _ => ""

end StreamEvent

/-- The calls that events leave in a message that had some. -/
def announcedCalls (calls : List ToolCall) (events : List StreamEvent) : List ToolCall :=
  events.foldl (fun calls e => e.onCalls calls) calls

theorem announcedCalls_append (calls : List ToolCall) (events more : List StreamEvent) :
    announcedCalls calls (events ++ more) = announcedCalls (announcedCalls calls events) more :=
  List.foldl_append

namespace TurnPhase

variable {now : Timestamp} {m m' : Message} {e : StreamEvent} {tokens : Option Tokens}

/-- **An event does to the calls of a message what it does to a list of calls.** -/
theorem toolCalls_applyEvent (h : applyEvent now m e = .ok (m', tokens)) :
    m'.toolCalls = e.onCalls m.toolCalls := by
  cases e with
  | thinking d | signature d =>
    cases h
    exact Message.toolCalls_extendReasoning now _ m
  | content d =>
    cases h
    rw [Message.toolCalls_appendContent, Message.toolCalls_finishThinking]
    rfl
  | toolStart c =>
    cases h
    rw [Message.toolCalls_addToolCall, Message.toolCalls_finishThinking]
    rfl
  | toolDelta id d | toolStop id =>
    cases h
    exact Message.toolCalls_changeCall now id _ m
  | complete a =>
    cases h
    rw [Message.toolCalls_addFinish, StreamEvent.onCalls]
    by_cases hcalls : a.toolCalls = []
    · simp [hcalls]
    · simp [hcalls, Message.toolCalls_setToolCalls]
  | failed cause => cases h

/-- **An event adds its text to that of a message.** -/
theorem content_applyEvent (h : applyEvent now m e = .ok (m', tokens)) :
    m'.content = m.content ++ e.text := by
  cases e with
  | complete a =>
    cases h
    by_cases hcalls : a.toolCalls.isEmpty <;> simp [hcalls, StreamEvent.text]
  | failed cause => cases h
  | _ =>
    cases h
    simp [StreamEvent.text, Message.appendThinking, Message.appendSignature,
      Message.appendToolInput, Message.finishToolCall]

/-- **An event adds its thoughts and its part of the signature to the reasoning of a message.** -/
theorem reasoning_applyEvent (h : applyEvent now m e = .ok (m', tokens)) :
    m'.thinking = m.thinking ++ e.thought ∧ m'.signature = m.signature ++ e.signed := by
  cases e with
  | complete a =>
    cases h
    by_cases hcalls : a.toolCalls.isEmpty <;>
      simp [hcalls, StreamEvent.thought, StreamEvent.signed, Message.thinking, Message.signature,
        Function.comp_def]
  | failed cause => cases h
  | thinking d | signature d =>
    cases h
    cases hr : m.reasoning? <;>
      simp [StreamEvent.thought, StreamEvent.signed, Message.thinking, Message.signature,
        Message.appendThinking, Message.appendSignature, hr]
  | content d | toolStart c =>
    cases h
    simp [StreamEvent.thought, StreamEvent.signed, Message.thinking, Message.signature,
      Function.comp_def]
  | toolDelta id d | toolStop id =>
    cases h
    simp [StreamEvent.thought, StreamEvent.signed, Message.thinking, Message.signature,
      Message.appendToolInput, Message.finishToolCall]

/-- What events do to a message one after another, each at its time. -/
def applyEvents (m : Message) : List (Timestamp × StreamEvent) → Except ProviderFailure Message
  | [] => .ok m
  | (now, e) :: log =>
    match applyEvent now m e with
    | .ok (m, _) => applyEvents m log
    | .error cause => .error cause

/-- **What events leave of a message**, if none of them reports a failure. -/
theorem applyEvents_eq_ok (m : Message) {log : List (Timestamp × StreamEvent)}
    (h : ∀ cause, .failed cause ∉ log.map (·.2)) :
    ∃ m', applyEvents m log = .ok m' ∧
      m'.toolCalls = announcedCalls m.toolCalls (log.map (·.2)) ∧
      m'.content = m.content ++ String.join ((log.map (·.2)).map StreamEvent.text) ∧
      m'.thinking = m.thinking ++ String.join ((log.map (·.2)).map StreamEvent.thought) ∧
      m'.signature = m.signature ++ String.join ((log.map (·.2)).map StreamEvent.signed) := by
  induction log generalizing m with
  | nil => exact ⟨m, rfl, rfl, by simp, by simp, by simp⟩
  | cons entry log ih =>
    obtain ⟨now, e⟩ := entry
    cases happly : applyEvent now m e with
    | error cause =>
      cases e with
      | failed cause' => exact absurd List.mem_cons_self (h cause')
      | _ => cases happly
    | ok result =>
      obtain ⟨m₁, tokens⟩ := result
      obtain ⟨m', heq, hcalls, hcontent, hthinking, hsignature⟩ :=
        ih m₁ fun cause hin => h cause (List.mem_cons_of_mem _ hin)
      obtain ⟨hthought, hsigned⟩ := reasoning_applyEvent happly
      refine ⟨m', ?_, ?_, ?_, ?_, ?_⟩
      · rw [applyEvents, happly]
        exact heq
      · rw [hcalls, toolCalls_applyEvent happly]
        rfl
      · simp [hcontent, content_applyEvent happly, String.append_assoc]
      · simp [hthinking, hthought, String.append_assoc]
      · simp [hsignature, hsigned, String.append_assoc]

end TurnPhase

end AgentDesk
