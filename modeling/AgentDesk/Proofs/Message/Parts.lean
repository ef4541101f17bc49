import AgentDesk.Turn.Phase
/-!
# What the operations of a message keep

The operations of a message work on one list of parts. Here is what they leave alone: the identifier
and the role of the message, and the identifiers of its tool calls when only their texts or marks
change. Closing a message leaves exactly one mark.

## Main definitions

* `Message.callIds` — the identifiers of the tool calls in order.
* `Message.marks` — the marks that close the message.
* `Message.Alike` — what two versions of a message have in common.
* `Message.savedAt` — the version that a store keeps.
-/

namespace AgentDesk

variable {α β : Type}

/-! ## Changing the first element -/

/-- A reading that the change of an element keeps is kept in the list. -/
theorem filterMap_changeFirst? {f : α → Option α} {g : α → Option β}
    (keeps : ∀ a b, f a = some b → g b = g a) (as : List α) {bs : List α}
    (h : changeFirst? f as = some bs) : bs.filterMap g = as.filterMap g := by
  induction as generalizing bs with
  | nil => simp [changeFirst?] at h
  | cons a as ih =>
    cases hf : f a with
    | some b =>
      simp only [changeFirst?, hf, Option.some.injEq] at h
      subst h
      simp only [List.filterMap_cons, keeps a b hf]
    | none =>
      simp only [changeFirst?, hf, Option.map_eq_some_iff] at h
      obtain ⟨cs, hcs, rfl⟩ := h
      simp only [List.filterMap_cons, ih hcs]

theorem filterMap_changeFirst?_getD {f : α → Option α} {g : α → Option β}
    (keeps : ∀ a b, f a = some b → g b = g a) (as : List α) :
    ((changeFirst? f as).getD as).filterMap g = as.filterMap g := by
  cases h : changeFirst? f as with
  | none => rfl
  | some bs => exact filterMap_changeFirst? keeps as h

/-- An element put at the end shows in a reading only if the reading sees it. -/
theorem filterMap_changeFirstOr {f : α → Option α} {g : α → Option β} {fresh : α}
    (keeps : ∀ a b, f a = some b → g b = g a) (unseen : g fresh = none) (as : List α) :
    (changeFirstOr f fresh as).filterMap g = as.filterMap g := by
  unfold changeFirstOr
  cases h : changeFirst? f as with
  | none => simp [unseen]
  | some bs => exact filterMap_changeFirst? keeps as h

/-- If every change makes the same element, then that element is there afterwards. -/
theorem mem_changeFirstOr {f : α → Option α} {fresh : α} (makes : ∀ a b, f a = some b → b = fresh)
    (as : List α) : fresh ∈ changeFirstOr f fresh as := by
  have hchanged : ∀ bs, changeFirst? f as = some bs → fresh ∈ bs := by
    induction as with
    | nil => simp [changeFirst?]
    | cons a as ih =>
      intro bs h
      cases hf : f a with
      | some b =>
        simp only [changeFirst?, hf, Option.some.injEq] at h
        simp [← h, makes a b hf]
      | none =>
        simp only [changeFirst?, hf, Option.map_eq_some_iff] at h
        obtain ⟨cs, hcs, rfl⟩ := h
        exact List.mem_cons_of_mem _ (ih cs hcs)
  unfold changeFirstOr
  cases h : changeFirst? f as with
  | none => simp
  | some bs => exact hchanged bs h

namespace Message

/-! ## Readings of a message -/

/-- The identifiers of the tool calls in order. -/
def callIds (m : Message) : List String := m.toolCalls.map (·.id)

/-- The marks that close the message. -/
def marks (m : Message) : List Finish := m.parts.filterMap Part.finish?

/-- What two versions of a message have in common: who it is, who speaks, which calls it makes and,
if a tool speaks, which it answers. -/
structure Alike (m m' : Message) : Prop where
  id : m.id = m'.id
  role : m.role = m'.role
  callIds : m.callIds = m'.callIds
  answered : m.role = .tool → m.toolResults.map (·.callId) = m'.toolResults.map (·.callId)

/-- A message as a store keeps it when it is saved. -/
def savedAt (m : Message) (now : Timestamp) : Message := { m with updatedAt := now }

theorem Alike.refl (m : Message) : Alike m m := ⟨rfl, rfl, rfl, fun _ => rfl⟩

theorem Alike.trans {m m' m'' : Message} (h : Alike m m') (h' : Alike m' m'') : Alike m m'' :=
  ⟨h.id.trans h'.id, h.role.trans h'.role, h.callIds.trans h'.callIds,
    fun ht => (h.answered ht).trans (h'.answered (h.role ▸ ht))⟩

theorem Alike.symm {m m' : Message} (h : Alike m m') : Alike m' m :=
  ⟨h.id.symm, h.role.symm, h.callIds.symm, fun ht => (h.answered (h.role ▸ ht)).symm⟩

theorem alike_savedAt (m : Message) (now : Timestamp) : Alike m (m.savedAt now) :=
  ⟨rfl, rfl, rfl, fun _ => rfl⟩

theorem callIds_eq_filterMap (m : Message) :
    m.callIds = m.parts.filterMap fun p => p.toolCall?.map (·.id) := by
  rw [callIds, toolCalls, List.map_filterMap]

theorem callIds_eq_nil {m : Message} : m.callIds = [] ↔ m.toolCalls = [] := by
  simp [callIds]

theorem callIds_of_toolCalls_eq {m m' : Message} (h : m.toolCalls = m'.toolCalls) :
    m.callIds = m'.callIds := by rw [callIds, callIds, h]

/-! ## Closing a message -/

@[simp] theorem id_addFinish (now : Timestamp) (r : FinishReason) (a b : String) (m : Message) :
    (m.addFinish now r a b).id = m.id := rfl

@[simp] theorem role_addFinish (now : Timestamp) (r : FinishReason) (a b : String) (m : Message) :
    (m.addFinish now r a b).role = m.role := rfl

/-- What closed the message is what its first mark says. -/
theorem finishReason?_eq_head? (m : Message) :
    m.finishReason? = (m.marks.map (·.reason)).head? := by
  rw [finishReason?, finish?, marks, List.head?_map, List.head?_filterMap]

/-- The mark is the only one, whatever marks there were. -/
@[simp] theorem marks_addFinish (now : Timestamp) (r : FinishReason) (a b : String) (m : Message) :
    (m.addFinish now r a b).marks = [⟨r, a, b, now⟩] := by
  have hothers : (m.parts.filter fun p => p.finish?.isNone).filterMap Part.finish? = [] := by
    simp [List.filterMap_eq_nil_iff]
  simp only [marks, addFinish, withParts, List.filterMap_append, hothers]
  rfl

@[simp] theorem finishReason?_addFinish (now : Timestamp) (r : FinishReason) (a b : String)
    (m : Message) : (m.addFinish now r a b).finishReason? = some r := by
  have hothers : (m.parts.filter fun p => p.finish?.isNone).findSome? Part.finish? = none := by
    simp [List.findSome?_eq_none_iff]
  simp only [finishReason?, finish?, addFinish, withParts, List.findSome?_append, hothers]
  rfl

/-- A reading that sees no marks does not notice that a message is closed. -/
theorem filterMap_addFinish {g : Part → Option β} (blind : ∀ f, g (.finish f) = none)
    (now : Timestamp) (r : FinishReason) (a b : String) (m : Message) :
    (m.addFinish now r a b).parts.filterMap g = m.parts.filterMap g := by
  have hothers : (m.parts.filter fun p => p.finish?.isNone).filterMap g = m.parts.filterMap g := by
    induction m.parts with
    | nil => rfl
    | cons p ps ih =>
      cases p <;> simp_all [Part.finish?, List.filterMap_cons]
  simp only [addFinish, withParts, List.filterMap_append, hothers]
  simp [blind]

@[simp] theorem toolCalls_addFinish (now : Timestamp) (r : FinishReason) (a b : String)
    (m : Message) : (m.addFinish now r a b).toolCalls = m.toolCalls :=
  filterMap_addFinish (fun _ => rfl) now r a b m

@[simp] theorem callIds_addFinish (now : Timestamp) (r : FinishReason) (a b : String)
    (m : Message) : (m.addFinish now r a b).callIds = m.callIds :=
  callIds_of_toolCalls_eq (toolCalls_addFinish now r a b m)

@[simp] theorem toolResults_addFinish (now : Timestamp) (r : FinishReason) (a b : String)
    (m : Message) : (m.addFinish now r a b).toolResults = m.toolResults :=
  filterMap_addFinish (fun _ => rfl) now r a b m

/-- A message and the same message closed are alike. -/
theorem alike_addFinish (now : Timestamp) (r : FinishReason) (a b : String) (m : Message) :
    Alike m (m.addFinish now r a b) :=
  ⟨rfl, rfl, (callIds_addFinish now r a b m).symm, fun _ => by rw [toolResults_addFinish]⟩

/-! ## Changing a call -/

/-- A change of a call that keeps its identifier keeps every reading that sees no more of a call
than that. -/
theorem filterMap_changeCall {g : Part → Option β} {f : ToolCall → ToolCall}
    (keeps : ∀ c, g (.toolCall (f c)) = g (.toolCall c)) (now : Timestamp) (id : String)
    (m : Message) : (m.changeCall now id f).parts.filterMap g = m.parts.filterMap g := by
  refine filterMap_changeFirst?_getD ?_ m.parts
  intro p q h
  cases p with
  | toolCall c =>
    by_cases hid : c.id == id
    · simp only [hid, if_true, Option.some.injEq] at h
      rw [← h, keeps]
    · simp [hid] at h
  | _ => simp at h

theorem callIds_changeCall (f : ToolCall → ToolCall) (keeps : ∀ c, (f c).id = c.id)
    (now : Timestamp) (id : String) (m : Message) :
      (m.changeCall now id f).callIds = m.callIds := by
  rw [callIds_eq_filterMap, callIds_eq_filterMap]
  exact filterMap_changeCall (fun c => by simp [Part.toolCall?, keeps]) now id m

/-- A message and the same message with a call changed are alike, if the call keeps its
identifier. -/
theorem alike_changeCall (f : ToolCall → ToolCall) (keeps : ∀ c, (f c).id = c.id)
    (now : Timestamp) (id : String) (m : Message) : Alike m (m.changeCall now id f) := by
  refine ⟨rfl, rfl, (callIds_changeCall f keeps now id m).symm, fun _ => ?_⟩
  have hresults : (m.changeCall now id f).toolResults = m.toolResults :=
    filterMap_changeCall (g := Part.toolResult?) (f := f) (fun _ => rfl) now id m
  rw [hresults]

@[simp] theorem callIds_finishToolCall (now : Timestamp) (id : String) (m : Message) :
    (m.finishToolCall now id).callIds = m.callIds :=
  callIds_changeCall (fun c => { c with finished := true }) (fun _ => rfl) now id m

@[simp] theorem callIds_appendToolInput (now : Timestamp) (id delta : String) (m : Message) :
    (m.appendToolInput now id delta).callIds = m.callIds :=
  callIds_changeCall (fun c => { c with input := c.input ++ delta }) (fun _ => rfl) now id m

/-- A call that is recorded is there. -/
theorem toolCalls_addToolCall_ne_nil (now : Timestamp) (call : ToolCall) (m : Message) :
    (m.addToolCall now call).toolCalls ≠ [] := by
  have hin : Part.toolCall call ∈ (m.addToolCall now call).parts := by
    refine mem_changeFirstOr ?_ m.parts
    intro p q h
    cases p with
    | toolCall c =>
      by_cases hid : c.id == call.id
      · simpa [hid] using h.symm
      · simp [hid] at h
    | _ => simp at h
  intro hnil
  have hnone := List.filterMap_eq_nil_iff.mp hnil _ hin
  simp [Part.toolCall?] at hnone

/-! ## Operations that no call notices -/

theorem toolCalls_withChanged {f : Part → Option Part} {fresh : Part}
    (keeps : ∀ p q, f p = some q → q.toolCall? = p.toolCall?) (unseen : fresh.toolCall? = none)
    (now : Timestamp) (m : Message) :
    (m.withParts now (changeFirstOr f fresh m.parts)).toolCalls = m.toolCalls :=
  filterMap_changeFirstOr keeps unseen m.parts

@[simp] theorem toolCalls_appendContent (now : Timestamp) (delta : String) (m : Message) :
    (m.appendContent now delta).toolCalls = m.toolCalls := by
  refine toolCalls_withChanged ?_ rfl now m
  intro p q h
  cases p <;> simp_all [Part.toolCall?]
  exact h ▸ rfl

@[simp] theorem toolCalls_extendReasoning (now : Timestamp) (f : Reasoning → Reasoning)
    (m : Message) : (m.extendReasoning now f).toolCalls = m.toolCalls := by
  refine toolCalls_withChanged ?_ rfl now m
  intro p q h
  cases p <;> simp_all [Part.toolCall?]
  exact h ▸ rfl

@[simp] theorem toolCalls_finishThinking (now : Timestamp) (m : Message) :
    (m.finishThinking now).toolCalls = m.toolCalls := by
  refine filterMap_changeFirst?_getD ?_ m.parts
  intro p q h
  cases p <;> simp_all [Part.toolCall?]
  exact h ▸ rfl

/-- Calls that replace all others are there. -/
theorem toolCalls_setToolCalls_ne_nil (now : Timestamp) {calls : List ToolCall} (h : calls ≠ [])
    (m : Message) : (m.setToolCalls now calls).toolCalls ≠ [] := by
  cases calls with
  | nil => exact absurd rfl h
  | cons c cs =>
    simp [setToolCalls, withParts, toolCalls, Part.toolCall?]

end Message

end AgentDesk
