import AgentDesk.Proofs.Message.Readings
/-!
# A message is a record

The list of parts of a message implements a record with one text, one block of reasoning, an ordered
list of calls and one mark. Whatever operations a message without parts goes through, in whatever
order, each reading of it is what the operations of its own kind make of it, and an operation of one
kind is not noticed by the readings of the others.

## Main definitions

* `MessageOperation`, `Message.perform`, `Message.performAll` — what changes a message.
* `ToolCall.place` and `ToolCall.amend` — what is done to an ordered list of calls.
* `PartKind` — the kinds of parts; `Message.SameBut` — all readings but one are the same.
* `Message.Records` — the record that some operations make.
-/

namespace AgentDesk

variable {α β : Type}

/-- The first change of an element with a property is a change at its place. -/
theorem changeFirst?_eq_findIdx? (q : α → Bool) (f : α → α) (as : List α) :
    changeFirst? (fun a => if q a then some (f a) else none) as =
      (as.findIdx? q).map fun i => as.modify i f := by
  induction as with
  | nil => rfl
  | cons a as ih =>
    cases hq : q a with
    | true => simp [changeFirst?, List.findIdx?_cons, hq]
    | false => simp [changeFirst?, List.findIdx?_cons, hq, ih, Function.comp_def]

/-! ## Ordered lists of calls -/

namespace ToolCall

/-- Puts a call in the place of the first one with its identifier, or behind all of them. -/
def place (call : ToolCall) (calls : List ToolCall) : List ToolCall :=
  match calls.findIdx? (·.id == call.id) with
  | some i => calls.set i call
  | none => calls ++ [call]

/-- Changes the first call with an identifier; an unknown identifier changes nothing. -/
def amend (id : String) (f : ToolCall → ToolCall) (calls : List ToolCall) : List ToolCall :=
  match calls.findIdx? (·.id == id) with
  | some i => calls.modify i f
  | none => calls

theorem recordIn_eq_place (call : ToolCall) (calls : List ToolCall) :
    call.recordIn calls = call.place calls := by
  have hchange :=
    changeFirst?_eq_findIdx? (fun c : ToolCall => c.id == call.id) (fun _ => call) calls
  rw [recordIn, changeFirstOr, hchange, place]
  cases calls.findIdx? (·.id == call.id) with
  | none => rfl
  | some i => exact (List.modify_eq_set ..)

theorem changeIn_eq_amend (id : String) (f : ToolCall → ToolCall) (calls : List ToolCall) :
    changeIn id f calls = amend id f calls := by
  have hchange := changeFirst?_eq_findIdx? (fun c : ToolCall => c.id == id) f calls
  rw [changeIn, hchange, amend]
  cases calls.findIdx? (·.id == id) <;> rfl

end ToolCall

/-! ## Operations -/

/-- What changes a message. -/
inductive MessageOperation where
  | appendContent (delta : String)
  | appendThinking (delta : String)
  | appendSignature (delta : String)
  | finishThinking
  | addToolCall (call : ToolCall)
  | appendToolInput (id delta : String)
  | finishToolCall (id : String)
  | setToolCalls (calls : List ToolCall)
  | addFinish (reason : FinishReason) (message details : String)
deriving Repr, DecidableEq

/-- The kinds of parts. -/
inductive PartKind where
  | text
  | reasoning
  | toolCall
  | toolResult
  | binary
  | finish
deriving Repr, DecidableEq

/-- The kind of a part. -/
def PartKind.of : Part → PartKind
  | .text _ => .text
  | .reasoning _ => .reasoning
  | .toolCall _ => .toolCall
  | .toolResult _ => .toolResult
  | .binary _ => .binary
  | .finish _ => .finish

namespace MessageOperation

/-- The kind of the parts that an operation works on. -/
def kind : MessageOperation → PartKind
  | .appendContent _ => .text
  | .appendThinking _ | .appendSignature _ | .finishThinking => .reasoning
  | .addToolCall _ | .appendToolInput _ _ | .finishToolCall _ | .setToolCalls _ => .toolCall
  | .addFinish _ _ _ => .finish

/-- What an operation adds to the text. -/
def text : MessageOperation → String
  | .appendContent delta => delta
  | _ => ""

/-- What an operation adds to the text of the reasoning. -/
def thought : MessageOperation → String
  | .appendThinking delta => delta
  | _ => ""

/-- What an operation adds to the signature of the reasoning. -/
def signed : MessageOperation → String
  | .appendSignature delta => delta
  | _ => ""

/-- What an operation does to the reasoning, which it opens if need be. -/
def onReasoning (now : Timestamp) : MessageOperation → Option Reasoning → Option Reasoning
  | .appendThinking delta, r =>
    let r := r.getD ⟨"", "", now, none⟩
    some { r with thinking := r.thinking ++ delta }
  | .appendSignature delta, r =>
    let r := r.getD ⟨"", "", now, none⟩
    some { r with signature := r.signature ++ delta }
  | .finishThinking, r => r.map fun r => { r with finishedAt := r.finishedAt.or (some now) }
  | _, r => r

/-- The operation extends the reasoning or its signature. -/
def Reasons : MessageOperation → Prop
  | .appendThinking _ | .appendSignature _ => True
  | _ => False

/-- What an operation does to an ordered list of calls. -/
def onCalls : MessageOperation → List ToolCall → List ToolCall
  | .addToolCall call, calls => call.place calls
  | .appendToolInput id delta, calls =>
    ToolCall.amend id (fun c => { c with input := c.input ++ delta }) calls
  | .finishToolCall id, calls => ToolCall.amend id (fun c => { c with finished := true }) calls
  | .setToolCalls calls, _ => calls.map fun c => { c with finished := true }
  | _, calls => calls

/-- The reason for which an operation closes a message. -/
def reason? : MessageOperation → Option FinishReason
  | .addFinish reason _ _ => some reason
  | _ => none

/-- Among some operations, reasoning was finished after it had appeared. -/
def FinishesReasoning (ops : List MessageOperation) : Prop :=
  ∃ before after, ops = before ++ .finishThinking :: after ∧ ∃ op ∈ before, op.Reasons

theorem FinishesReasoning.reasons {ops : List MessageOperation} (h : FinishesReasoning ops) :
    ∃ op ∈ ops, op.Reasons := by
  obtain ⟨before, after, rfl, op, hop, hreasons⟩ := h
  exact ⟨op, List.mem_append_left _ hop, hreasons⟩

theorem finishesReasoning_append {ops : List MessageOperation} {op : MessageOperation} :
    FinishesReasoning (ops ++ [op]) ↔
      FinishesReasoning ops ∨ op = .finishThinking ∧ ∃ o ∈ ops, o.Reasons := by
  constructor
  · rintro ⟨before, after, heq, hreasons⟩
    rcases List.eq_nil_or_concat after with rfl | ⟨after, last, rfl⟩
    · obtain ⟨rfl, hop⟩ := List.append_inj' heq rfl
      exact .inr ⟨(List.cons.inj hop).1, hreasons⟩
    · rw [List.concat_eq_append, ← List.cons_append, ← List.append_assoc] at heq
      obtain ⟨rfl, -⟩ := List.append_inj' heq rfl
      exact .inl ⟨before, after, rfl, hreasons⟩
  · rintro (⟨before, after, rfl, hreasons⟩ | ⟨rfl, hreasons⟩)
    · exact ⟨before, after ++ [op], by simp, hreasons⟩
    · exact ⟨ops, [], rfl, hreasons⟩

end MessageOperation

namespace Message

/-- The message behind an operation. -/
def perform (now : Timestamp) (m : Message) : MessageOperation → Message
  | .appendContent delta => m.appendContent now delta
  | .appendThinking delta => m.appendThinking now delta
  | .appendSignature delta => m.appendSignature now delta
  | .finishThinking => m.finishThinking now
  | .addToolCall call => m.addToolCall now call
  | .appendToolInput id delta => m.appendToolInput now id delta
  | .finishToolCall id => m.finishToolCall now id
  | .setToolCalls calls => m.setToolCalls now calls
  | .addFinish reason message details => m.addFinish now reason message details

/-- The message behind some operations, each at its time. -/
def performAll (m : Message) (log : List (Timestamp × MessageOperation)) : Message :=
  log.foldl (fun m entry => m.perform entry.1 entry.2) m

/-- The readings of two messages are the same, but for the parts of one kind. -/
structure SameBut (kind : PartKind) (m m' : Message) : Prop where
  content : kind ≠ .text → m'.content = m.content
  reasoning : kind ≠ .reasoning → m'.reasoning? = m.reasoning?
  calls : kind ≠ .toolCall → m'.toolCalls = m.toolCalls
  results : kind ≠ .toolResult → m'.toolResults = m.toolResults
  binaries : kind ≠ .binary → m'.binaries = m.binaries
  finish : kind ≠ .finish → m'.finish? = m.finish?

/-- A message is the record that some operations make. -/
structure Records (m : Message) (ops : List MessageOperation) : Prop where
  oneText : m.texts.length ≤ 1
  oneBlock : m.blocks.length ≤ 1
  oneMark : m.marks.length ≤ 1
  content : m.content = String.join (ops.map MessageOperation.text)
  reasoned : m.reasoning?.isSome ↔ ∃ op ∈ ops, op.Reasons
  thinking : m.thinking = String.join (ops.map MessageOperation.thought)
  signature : m.signature = String.join (ops.map MessageOperation.signed)
  finished : ∀ r, m.reasoning? = some r →
    (r.finishedAt.isSome ↔ MessageOperation.FinishesReasoning ops)
  reason : m.finishReason? = (ops.filterMap MessageOperation.reason?).getLast?
  calls : m.toolCalls = ops.foldl (fun calls op => op.onCalls calls) []

variable {m : Message} {ops : List MessageOperation}

/-! ## What a reading does not notice -/

/-- **An operation is noticed by the readings of its own kind only.** -/
theorem filterMap_perform {g : Part → Option β} {op : MessageOperation}
    (blind : ∀ p, PartKind.of p = op.kind → g p = none) (now : Timestamp) (m : Message) :
    (m.perform now op).parts.filterMap g = m.parts.filterMap g := by
  cases op with
  | appendContent delta => exact filterMap_appendContent (fun t => blind (.text t) rfl) now delta m
  | appendThinking delta | appendSignature delta =>
    exact filterMap_extendReasoning (fun r => blind (.reasoning r) rfl) now _ m
  | finishThinking => exact filterMap_finishThinking (fun r => blind (.reasoning r) rfl) now m
  | addToolCall call => exact filterMap_addToolCall (fun c => blind (.toolCall c) rfl) now call m
  | appendToolInput id delta | finishToolCall id =>
    have hblind : ∀ c, g (.toolCall c) = none := fun c => blind (.toolCall c) rfl
    exact filterMap_changeCall (fun c => by rw [hblind, hblind]) now id m
  | setToolCalls calls =>
    exact filterMap_setToolCalls (fun c => blind (.toolCall c) rfl) now calls m
  | addFinish reason message details =>
    exact filterMap_addFinish (fun f => blind (.finish f) rfl) now reason message details m

/-- A reading that sees one kind of parts does not notice an operation of another kind. -/
theorem filterMap_perform_of_ne {g : Part → Option β} {op : MessageOperation} {kind : PartKind}
    (sees : ∀ p, PartKind.of p ≠ kind → g p = none) (hne : op.kind ≠ kind) (now : Timestamp)
    (m : Message) : (m.perform now op).parts.filterMap g = m.parts.filterMap g :=
  filterMap_perform (fun p hp => sees p (hp ▸ hne)) now m

theorem finish?_eq_head? (m : Message) : m.finish? = m.marks.head? := by
  rw [finish?, marks, List.head?_filterMap]

/-- The parts of all other kinds are the same. -/
theorem parts_perform (now : Timestamp) (m : Message) (op : MessageOperation) :
    (op.kind ≠ .text → (m.perform now op).texts = m.texts) ∧
    (op.kind ≠ .reasoning → (m.perform now op).blocks = m.blocks) ∧
    (op.kind ≠ .toolCall → (m.perform now op).toolCalls = m.toolCalls) ∧
    (op.kind ≠ .toolResult → (m.perform now op).toolResults = m.toolResults) ∧
    (op.kind ≠ .binary → (m.perform now op).binaries = m.binaries) ∧
    (op.kind ≠ .finish → (m.perform now op).marks = m.marks) := by
  refine ⟨fun hne => filterMap_perform_of_ne ?_ hne now m,
    fun hne => filterMap_perform_of_ne ?_ hne now m,
    fun hne => filterMap_perform_of_ne ?_ hne now m,
    fun hne => filterMap_perform_of_ne ?_ hne now m,
    fun hne => filterMap_perform_of_ne ?_ hne now m,
    fun hne => filterMap_perform_of_ne ?_ hne now m⟩
  all_goals
    intro p hp
    cases p <;> first | rfl | exact absurd rfl hp

theorem sameBut_perform (now : Timestamp) (m : Message) (op : MessageOperation) :
    SameBut op.kind m (m.perform now op) := by
  obtain ⟨htexts, hblocks, hcalls, hresults, hbinaries, hmarks⟩ := parts_perform now m op
  refine ⟨fun hne => content_congr (htexts hne), fun hne => reasoning?_congr (hblocks hne), hcalls,
    hresults, hbinaries, fun hne => ?_⟩
  rw [finish?_eq_head?, finish?_eq_head?, hmarks hne]

/-! ## What an operation does to the readings of its kind -/

theorem content_perform (now : Timestamp) (m : Message) (op : MessageOperation) :
    (m.perform now op).content = m.content ++ op.text := by
  cases op <;> simp [perform, MessageOperation.text, appendThinking, appendSignature,
    appendToolInput, finishToolCall]

theorem reasoning?_perform (now : Timestamp) (m : Message) (op : MessageOperation) :
    (m.perform now op).reasoning? = op.onReasoning now m.reasoning? := by
  cases op <;> simp [perform, MessageOperation.onReasoning, appendThinking, appendSignature,
    appendToolInput, finishToolCall]

theorem toolCalls_perform (now : Timestamp) (m : Message) (op : MessageOperation) :
    (m.perform now op).toolCalls = op.onCalls m.toolCalls := by
  cases op with
  | addToolCall call => exact (toolCalls_addToolCall now call m).trans (call.recordIn_eq_place _)
  | appendToolInput id delta | finishToolCall id =>
    exact (toolCalls_changeCall now id _ m).trans (ToolCall.changeIn_eq_amend id _ _)
  | setToolCalls calls => exact toolCalls_setToolCalls now calls m
  | appendContent delta => exact toolCalls_appendContent now delta m
  | appendThinking delta | appendSignature delta => exact toolCalls_extendReasoning now _ m
  | finishThinking => exact toolCalls_finishThinking now m
  | addFinish reason message details => exact toolCalls_addFinish now reason message details m

theorem finishReason?_perform (now : Timestamp) (m : Message) (op : MessageOperation) :
    (m.perform now op).finishReason? = op.reason?.or m.finishReason? := by
  by_cases hkind : op.kind = .finish
  · cases op <;> cases hkind
    exact finishReason?_addFinish ..
  · have hreason : op.reason? = none := by
      cases op <;> first | rfl | exact absurd rfl hkind
    rw [finishReason?, (sameBut_perform now m op).finish hkind, hreason]
    rfl

theorem length_changeFirstOr_le {f : α → α} {fresh : α} {as : List α} (h : as.length ≤ 1) :
    (changeFirstOr (fun a => some (f a)) fresh as).length ≤ 1 := by
  cases as with
  | nil => simp [changeFirstOr, changeFirst?]
  | cons a as => simpa [changeFirstOr, changeFirst?] using h

theorem length_changeFirst?_getD_le {f : α → α} {as : List α} (h : as.length ≤ 1) :
    ((changeFirst? (fun a => some (f a)) as).getD as).length ≤ 1 := by
  cases as with
  | nil => simp [changeFirst?]
  | cons a as => simpa [changeFirst?] using h

/-- A message with at most one text, one block of reasoning and one mark keeps to that. -/
theorem length_perform (now : Timestamp) (op : MessageOperation) (htext : m.texts.length ≤ 1)
    (hblock : m.blocks.length ≤ 1) (hmark : m.marks.length ≤ 1) :
    (m.perform now op).texts.length ≤ 1 ∧ (m.perform now op).blocks.length ≤ 1 ∧
      (m.perform now op).marks.length ≤ 1 := by
  obtain ⟨htexts, hblocks, -, -, -, hmarks⟩ := parts_perform now m op
  cases hkind : op.kind with
  | text =>
    rw [hblocks (by simp [hkind]), hmarks (by simp [hkind])]
    cases op <;> cases hkind
    exact ⟨texts_appendContent now _ m ▸ length_changeFirstOr_le htext, hblock, hmark⟩
  | reasoning =>
    rw [htexts (by simp [hkind]), hmarks (by simp [hkind])]
    refine ⟨htext, ?_, hmark⟩
    cases op <;> cases hkind
    · exact blocks_extendReasoning now _ m ▸ length_changeFirstOr_le hblock
    · exact blocks_extendReasoning now _ m ▸ length_changeFirstOr_le hblock
    · exact blocks_finishThinking now m ▸ length_changeFirst?_getD_le hblock
  | finish =>
    rw [htexts (by simp [hkind]), hblocks (by simp [hkind])]
    cases op <;> cases hkind
    exact ⟨htext, hblock, Nat.le_of_eq (congrArg List.length (marks_addFinish ..))⟩
  | toolCall | toolResult | binary =>
    rw [htexts (by simp [hkind]), hblocks (by simp [hkind]), hmarks (by simp [hkind])]
    exact ⟨htext, hblock, hmark⟩

/-! ## The record -/

/-- The reasoning is finished once it was there when thinking was finished. -/
theorem Records.finished_perform (h : m.Records ops) (now : Timestamp) (op : MessageOperation)
    (r : Reasoning) (hr : (m.perform now op).reasoning? = some r) :
    r.finishedAt.isSome ↔ MessageOperation.FinishesReasoning (ops ++ [op]) := by
  rw [reasoning?_perform] at hr
  rw [MessageOperation.finishesReasoning_append]
  have hopen : m.reasoning? = none → ¬ MessageOperation.FinishesReasoning ops := by
    intro hnone hfin
    have hsome := h.reasoned.mpr hfin.reasons
    simp [hnone] at hsome
  cases hbefore : m.reasoning? with
  | none =>
    cases op <;> rw [hbefore] at hr <;> cases hr <;> simp [hopen hbefore]
  | some r₀ =>
    have hfinished := h.finished r₀ hbefore
    cases op with
    | finishThinking =>
      rw [hbefore] at hr
      cases hr
      have hreasons := h.reasoned.mp (by simp [hbefore])
      simp [hreasons]
    | _ =>
      rw [hbefore] at hr
      cases hr
      simpa using hfinished

/-- **A record stays one**, whatever the operation. -/
theorem Records.perform (h : m.Records ops) (now : Timestamp) (op : MessageOperation) :
    (m.perform now op).Records (ops ++ [op]) := by
  obtain ⟨htext, hblock, hmark⟩ := length_perform now op h.oneText h.oneBlock h.oneMark
  have hreasoning := reasoning?_perform now m op
  refine ⟨htext, hblock, hmark, ?_, ?_, ?_, ?_, ?_, ?_, ?_⟩
  · simp [content_perform, h.content]
  · have hreasoned := h.reasoned
    cases op <;> simp_all [MessageOperation.onReasoning, MessageOperation.Reasons]
  · have hthinking := h.thinking
    unfold Message.thinking at hthinking ⊢
    rw [hreasoning]
    cases op <;> cases hr : m.reasoning? <;>
      simp_all [MessageOperation.onReasoning, MessageOperation.thought]
  · have hsignature := h.signature
    unfold Message.signature at hsignature ⊢
    rw [hreasoning]
    cases op <;> cases hr : m.reasoning? <;>
      simp_all [MessageOperation.onReasoning, MessageOperation.signed]
  · exact h.finished_perform now op
  · rw [finishReason?_perform, h.reason, List.filterMap_append]
    cases hop : op.reason? <;> simp [hop]
  · rw [toolCalls_perform, h.calls, List.foldl_append]
    rfl

theorem Records.performAll (h : m.Records ops) (log : List (Timestamp × MessageOperation)) :
    (m.performAll log).Records (ops ++ log.map (·.2)) := by
  induction log generalizing m ops with
  | nil => simpa [Message.performAll] using h
  | cons entry log ih =>
    have hrest := ih (h.perform entry.1 entry.2)
    rwa [List.append_assoc] at hrest

/-- **A message is a record.** A message without parts that goes through some operations is the
record that they make: it has at most one text, one block of reasoning and one mark, its text is
what was appended to it, its reasoning is there once some of it or of its signature was appended,
and finished once thinking was finished after that, its mark is the last one, and its calls are
those of an ordered list that went through the same operations. No operation, on any message, is
noticed by the readings of another kind. -/
theorem records_performAll (hm : m.parts = []) (log : List (Timestamp × MessageOperation)) :
    (m.performAll log).Records (log.map (·.2)) ∧
      ∀ (x : Message) (now : Timestamp) (op : MessageOperation),
        SameBut op.kind x (x.perform now op) := by
  have hempty : m.Records [] := by
    constructor <;> simp [texts, blocks, marks, content, Message.reasoning?, thinking, signature,
      finishReason?, finish?, toolCalls, hm]
  exact ⟨hempty.performAll log, fun x now op => sameBut_perform now x op⟩

/-- Calls are recorded, all replaced and extended, amid text, reasoning and marks. -/
theorem records_sampleLog : ∃ (m : Message) (log : List (Timestamp × MessageOperation)),
    m.parts = [] ∧ (m.performAll log).Records (log.map (·.2)) ∧
      (m.performAll log).content = "ab" ∧ (m.performAll log).thinking = "x" ∧
      (m.performAll log).reasoning?.isSome ∧ (m.performAll log).finishReason? = some .endTurn ∧
      (m.performAll log).toolCalls =
        [⟨"c1", "echo", "[", true⟩, ⟨"c1", "echo", "", true⟩, ⟨"c2", "echo", "", false⟩] := by
  let log : List (Timestamp × MessageOperation) := [.finishThinking, .appendContent "a",
    .addToolCall ⟨"c0", "list", "", false⟩, .appendToolInput "c0" "[", .appendThinking "x",
    .addFinish .error "" "", .setToolCalls [⟨"c1", "echo", "", false⟩, ⟨"c1", "echo", "", false⟩],
    .appendToolInput "c1" "[", .addToolCall ⟨"c2", "echo", "", false⟩, .appendSignature "s",
    .finishThinking, .appendContent "b", .addFinish .endTurn "" "",
    .finishToolCall "c3"].map fun op => (default, op)
  have h := (records_performAll
    (m := (⟨.assistant, [], none, none⟩ : Draft).toMessage "m" "s" default) rfl log).1
  exact ⟨_, log, rfl, h, h.content.trans (by decide), h.thinking.trans (by decide),
    h.reasoned.mpr ⟨.appendThinking "x", by simp [log], trivial⟩, h.reason.trans (by decide),
    h.calls.trans (by decide)⟩

end Message

end AgentDesk
