import AgentDesk.Proofs.Message.Parts
/-!
# What a turn knows in each phase

A turn carries the message of its round, and in the later phases the results of the calls so far.
These belong together: the results are those of the first calls of the message, in order, and what
is still to be recorded answers all of its calls. This holds in every phase, whatever the
surroundings answer, as long as a message is created from the draft that was handed in.

## Main definitions

* `TurnRequest.Honest` — the one thing that is asked of the answers.
* `TurnPhase.Coherent` — what a turn knows in a phase.
* `TurnPhase.message?` — the message of the round.
-/

namespace AgentDesk

/-- A created message is made from its draft; nothing else is asked of an answer. -/
def TurnRequest.Honest : (r : TurnRequest) → r.Reply → Prop
  | .createMessage draft, (reply : Except StoreFailure Message) =>
    ∀ m, reply = .ok m → m.role = draft.role ∧ m.parts = draft.parts
  | _, _ => True

namespace TurnPhase

variable {setup : TurnSetup} {now : Timestamp} {history : List Message} {m m' : Message}

/-! ## The steps of the course -/

/-- An event changes neither who a message is nor who speaks, and no event takes all calls away. -/
theorem applyEvent_keeps {e : StreamEvent} {tokens : Option Tokens}
    (h : applyEvent now m e = .ok (m', tokens)) :
    m'.id = m.id ∧ m'.role = m.role ∧ (m.toolCalls ≠ [] → m'.toolCalls ≠ []) := by
  cases e with
  | thinking d | signature d | content d =>
    simp only [applyEvent, Except.ok.injEq, Prod.mk.injEq] at h
    obtain ⟨rfl, -⟩ := h
    exact ⟨rfl, rfl, fun hne => by
      simpa [Message.appendThinking, Message.appendSignature] using hne⟩
  | toolStart c =>
    simp only [applyEvent, Except.ok.injEq, Prod.mk.injEq] at h
    obtain ⟨rfl, -⟩ := h
    exact ⟨rfl, rfl, fun _ => Message.toolCalls_addToolCall_ne_nil now c _⟩
  | toolDelta id d | toolStop id =>
    simp only [applyEvent, Except.ok.injEq, Prod.mk.injEq] at h
    obtain ⟨rfl, -⟩ := h
    exact ⟨rfl, rfl, fun hne hnil => hne (by
      simpa [← Message.callIds_eq_nil] using hnil)⟩
  | complete a =>
    simp only [applyEvent, Except.ok.injEq, Prod.mk.injEq] at h
    obtain ⟨rfl, -⟩ := h
    by_cases hcalls : a.toolCalls.isEmpty
    · simp only [hcalls, if_true]
      exact ⟨rfl, rfl, fun hne => by simpa using hne⟩
    · simp only [hcalls, Bool.false_eq_true, if_false]
      refine ⟨rfl, rfl, fun _ => ?_⟩
      rw [Message.toolCalls_addFinish]
      exact Message.toolCalls_setToolCalls_ne_nil now (by simpa using hcalls) _
  | failed cause => simp [applyEvent] at h

theorem alike_closeFor (now : Timestamp) (cause : TurnFailure) (m : Message) :
    Message.Alike m (closeFor now cause m) := by
  unfold closeFor
  split <;> exact Message.alike_addFinish ..

/-- Finishing the calls of a message changes no more than the marks on them. -/
theorem alike_finishCalls (now : Timestamp) (m : Message) :
    Message.Alike m (finishCalls now m) := by
  unfold finishCalls
  generalize (m.toolCalls.filter fun c => !c.finished) = calls
  induction calls generalizing m with
  | nil => exact Message.Alike.refl m
  | cons c calls ih =>
    have hstep : Message.Alike m (m.finishToolCall now c.id) :=
      Message.alike_changeCall (fun c => { c with finished := true }) (fun _ => rfl) now c.id m
    exact hstep.trans (ih _)

/-- What a failed or canceled stream leaves to do: to save a message like the one it had, and to
answer the calls of that message. -/
theorem abort_eq (now : Timestamp) (m : Message) (cause : TurnFailure) :
    ∃ m', abort now m cause = .failing m' m.toolCalls cause ∧ Message.Alike m m' :=
  ⟨_, rfl, (alike_finishCalls now m).trans (alike_closeFor now cause _)⟩

/-- Where a turn can go behind the message of a round. -/
theorem afterRound_eq_next {tools : Option Message} {p : TurnPhase}
    (h : afterRound now history m tools = .next p) :
    (∃ t, tools = some t ∧ p = .draining (history ++ [m, t])) ∨
    (m.finishReason? = some .endTurn ∧ p = .taking (history ++ [m]) m) ∨
    (m.finishReason? = none ∧ p = .closing (m.addFinish now .canceled requestCanceled "")) := by
  unfold afterRound at h
  split at h <;> simp_all

/-- Where a turn can end behind the message of a round. -/
theorem afterRound_eq_stop {tools : Option Message} {outcome : Except TurnFailure Message}
    (h : afterRound now history m tools = .stop outcome) :
    (m.finishReason? = some .canceled ∧ outcome = .error .canceled) ∨
    (m.finishReason? ≠ some .endTurn ∧ outcome = .ok m) := by
  unfold afterRound at h
  split at h <;> simp_all

/-- The prompts that are not empty are recorded first, and only then a round begins. -/
theorem record_cases (history : List Message) (prompts : List String) :
    record history prompts = .round history ∧ prompts.all String.isEmpty ∨
      ∃ p rest, record history prompts = .queuing history p rest := by
  unfold record
  split
  · rename_i h
    left
    exact ⟨rfl, by simpa using h⟩
  · exact .inr ⟨_, _, rfl⟩

/-! ## Coherence -/

/-- What a turn knows in a phase. -/
def Coherent : TurnPhase → Prop
  | .opening _ m => m.role = .assistant ∧ m.toolCalls = []
  | .streaming _ m | .saving _ m _ | .accounting _ m _ | .charging _ m _ | .closing m =>
    m.role = .assistant
  | .dispatching _ m results call rest | .awaiting _ m results call rest =>
    m.role = .assistant ∧ results.map (·.callId) ++ (call :: rest).map (·.id) = m.callIds
  | .stopping _ m results | .recording _ m results =>
    m.role = .assistant ∧ m.toolCalls ≠ [] ∧ results.map (·.callId) = m.callIds
  | .taking _ m => m.role = .assistant ∧ m.finishReason? = some .endTurn
  | .failing m calls _ => m.role = .assistant ∧ calls.map (·.id) = m.callIds
  | .excusing calls _ => calls ≠ []
  | _ => True

/-- The message of the round, while its turn may still save it. -/
def message? : TurnPhase → Option Message
  | .opening _ m | .streaming _ m | .saving _ m _ | .accounting _ m _ | .charging _ m _
  | .dispatching _ m _ _ _ | .awaiting _ m _ _ _ | .stopping _ m _ | .recording _ m _
  | .failing m _ _ | .closing m => some m
  | _ => none

theorem Coherent.role {p : TurnPhase} (hp : p.Coherent) (hm : p.message? = some m) :
    m.role = .assistant := by
  cases p <;> cases hm <;> first | exact hp | exact hp.1

theorem toolCalls_ne_nil_of_coherent {results : List ToolResult} {call : ToolCall}
    {rest : List ToolCall}
    (h : results.map (·.callId) ++ (call :: rest).map (·.id) = m.callIds) : m.toolCalls ≠ [] := by
  intro hnil
  simp [Message.callIds_eq_nil.mpr hnil] at h

theorem map_callId_canceledResults (calls : List ToolCall) :
    (canceledResults calls).map (·.callId) = calls.map (·.id) := by
  simp [canceledResults, errorResult, Function.comp_def]

/-- The call that was answered joins the results. -/
theorem coherent_nextCall {results : List ToolResult} {r : ToolResult} {call : ToolCall}
    {rest : List ToolCall} (hrole : m.role = .assistant) (hr : r.callId = call.id)
    (h : results.map (·.callId) ++ (call :: rest).map (·.id) = m.callIds) :
    (nextCall history m (results ++ [r]) rest).Coherent := by
  have hne := toolCalls_ne_nil_of_coherent h
  cases rest with
  | nil => exact ⟨hrole, hne, by simpa [hr] using h⟩
  | cons c rest => exact ⟨hrole, by simpa [hr] using h⟩

theorem coherent_stopTools {results : List ToolResult} {call : ToolCall} {rest : List ToolCall}
    (hrole : m.role = .assistant)
    (h : results.map (·.callId) ++ (call :: rest).map (·.id) = m.callIds) :
    (stopTools now history m results (call :: rest)).Coherent := by
  have hne := toolCalls_ne_nil_of_coherent h
  refine ⟨hrole, by simpa using hne, ?_⟩
  rw [List.map_append, map_callId_canceledResults, h, Message.callIds_addFinish]

theorem coherent_abort (hrole : m.role = .assistant) (cause : TurnFailure) :
    (abort now m cause).Coherent := by
  obtain ⟨m', heq, halike⟩ := abort_eq now m cause
  rw [heq]
  exact ⟨halike.role ▸ hrole, halike.callIds⟩

theorem coherent_record (history : List Message) (prompts : List String) :
    (record history prompts).Coherent := by
  rcases record_cases history prompts with ⟨h, -⟩ | ⟨p, rest, h⟩ <;> rw [h] <;> trivial

theorem coherent_afterRound {tools : Option Message} {p : TurnPhase} (hrole : m.role = .assistant)
    (h : afterRound now history m tools = .next p) : p.Coherent := by
  rcases afterRound_eq_next h with ⟨t, -, rfl⟩ | ⟨hend, rfl⟩ | ⟨-, rfl⟩
  · trivial
  · exact ⟨hrole, hend⟩
  · exact hrole

/-- **A turn stays coherent**, whatever it is answered. -/
theorem coherent_resume {p p' : TurnPhase} {reply : (p.request setup).Reply} (hp : p.Coherent)
    (hr : (p.request setup).Honest reply) (h : p.resume setup now reply = .next p') :
    p'.Coherent := by
  cases p with
  | listing | reading | prompting | queuing =>
    simp only [resume, storeFailed] at h
    split at h <;> try split at h
    all_goals cases h <;> trivial
  | round =>
    simp only [resume] at h
    split at h <;> cases h
    trivial
  | answering history =>
    simp only [resume, storeFailed] at h
    split at h <;> cases h
    rename_i m
    obtain ⟨hrole, hparts⟩ := hr m rfl
    exact ⟨hrole, by simp [Message.toolCalls, hparts, assistantDraft]⟩
  | opening history m =>
    obtain ⟨hrole, hcalls⟩ := hp
    simp only [resume] at h
    split at h <;> cases h
    · exact ⟨hrole, by simp [hcalls, ← (alike_closeFor ..).callIds, Message.callIds_eq_nil]⟩
    · exact ⟨hrole, by simp [hcalls, ← (alike_closeFor ..).callIds, Message.callIds_eq_nil]⟩
    · exact hrole
  | streaming history m =>
    simp only [resume] at h
    split at h
    · cases h
      exact coherent_abort hp .canceled
    · unfold afterStream at h
      split at h
      · exact coherent_afterRound hp h
      · rename_i c rest hcalls
        cases h
        exact ⟨hp, by simp [Message.callIds, hcalls]⟩
    · split at h <;> cases h
      · rename_i he
        exact (applyEvent_keeps he).2.1.trans hp
      · exact coherent_abort hp _
  | saving history m tokens =>
    simp only [resume] at h
    split at h
    · cases h
      exact coherent_abort hp _
    · split at h <;> cases h <;> exact hp
  | accounting history m tokens | charging history m session =>
    simp only [resume] at h
    split at h <;> cases h
    · exact coherent_abort hp _
    · exact hp
  | dispatching history m results call rest =>
    obtain ⟨hrole, hids⟩ := hp
    simp only [resume] at h
    split at h <;> cases h
    · exact coherent_stopTools hrole hids
    · exact coherent_nextCall hrole rfl hids
    · exact ⟨hrole, hids⟩
  | awaiting history m results call rest =>
    obtain ⟨hrole, hids⟩ := hp
    simp only [resume] at h
    split at h <;> cases h
    · exact coherent_stopTools hrole hids
    · exact coherent_nextCall hrole rfl hids
    · refine ⟨hrole, by simpa using toolCalls_ne_nil_of_coherent hids, ?_⟩
      simpa [map_callId_canceledResults, errorResult] using hids
    · exact coherent_nextCall hrole rfl hids
  | stopping history m results =>
    cases h
    exact hp
  | recording history m results =>
    simp only [resume, storeFailed] at h
    split at h
    · cases h
    · exact coherent_afterRound hp.1 h
  | draining history =>
    cases h
    exact coherent_record history _
  | taking history m =>
    simp only [resume] at h
    split at h
    · cases h
    · split at h <;> cases h
      · exact hp
      · exact coherent_record history _
  | failing m calls cause =>
    simp only [resume] at h
    split at h <;> cases h
    rename_i hne
    exact fun hnil => hne (by simp [hnil])
  | excusing calls cause => cases h
  | closing m => cases h

end TurnPhase

end AgentDesk
