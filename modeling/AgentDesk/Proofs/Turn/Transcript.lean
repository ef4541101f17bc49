import AgentDesk.Proofs.Turn.Coherence
import AgentDesk.Proofs.Turn.Pairing
/-!
# The transcript of a session

The transcript of a session is the list of its messages in the store, in order of creation. A store
that works answers a turn from the transcript and changes it as it is told; all other answers may be
anything, except that a turn that was canceled and has left its tracker learns of it wherever it
asks.

A turn that has the transcript to itself keeps it in order: between its phases the transcript is
well paired, but for the message of the round at its end.

## Main definitions

* `Served` — how a working store and its surroundings may answer a request.
* `TurnPhase.Leads` — a step of a turn on a transcript.
* `Current` — the message of a round at the end of a transcript; `Settled`, `Filed` — anywhere in
  it.
* `TurnPhase.Fits` — what the transcript looks like in a phase.
-/

namespace AgentDesk

variable {session : String} {summary : Option String} {canceled : Bool}

/-- How the request of a turn may be answered, and what becomes of the transcript of its session.
The session keeps its summary. A turn that was canceled has left the tracker, which gives it no
prompts at its end. -/
def Served (session : String) (summary : Option String) (canceled : Bool)
    (before after : List Message) : (r : TurnRequest) → r.Reply → Prop
  | .listMessages, (reply : Except StoreFailure (List Message)) =>
    reply = .ok before ∧ after = before
  | .readSession, (reply : Except StoreFailure Session) =>
    (∃ s, reply = .ok s ∧ s.summary = summary) ∧ after = before
  | .saveSession _, (reply : Except StoreFailure Session) => (∃ s, reply = .ok s) ∧ after = before
  | .createMessage draft, (reply : Except StoreFailure Message) =>
    ∃ id now, (∀ x ∈ before, x.id ≠ id) ∧ reply = .ok (draft.toMessage id session now) ∧
      after = before ++ [draft.toMessage id session now]
  | .updateMessage m, (reply : Except StoreFailure Unit) =>
    reply = .ok () ∧ ∃ now, after = rewrite (m.savedAt now) before
  | .isCanceled, (reply : Bool) => (canceled → reply = true) ∧ after = before
  | .openStream _, (reply : Opening) => (canceled → reply = .canceled) ∧ after = before
  | .nextEvent, (reply : NextEvent) => (canceled → reply = .canceled) ∧ after = before
  | .startTool _ _, (reply : ToolStart) => (canceled → reply = .canceled) ∧ after = before
  | .awaitTool, (reply : ToolEnd) => (canceled → reply = .canceled) ∧ after = before
  | .drainQueue, _ => after = before
  | .finishOrTake, (reply : List String) => (canceled → reply = []) ∧ after = before

/-- A step of a turn on the transcript of its session. -/
def TurnPhase.Leads (setup : TurnSetup) (summary : Option String) (canceled : Bool)
    (before : List Message) (p : TurnPhase) (after : List Message) (progress : TurnProgress) :
    Prop :=
  ∃ now reply, Served setup.sessionId summary canceled before after (p.request setup) reply ∧
    p.resume setup now reply = progress

theorem Served.honest {before after : List Message} {r : TurnRequest} {reply : r.Reply}
    (h : Served session summary canceled before after r reply) : r.Honest reply := by
  cases r with
  | createMessage draft =>
    obtain ⟨id, now, -, rfl, -⟩ := h
    intro m hm
    cases hm
    exact ⟨rfl, rfl⟩
  | _ => trivial

/-! ## The message of a round -/

/-- What a version of a message that is still to be replaced has in common with the next one: the
calls that it makes stay. -/
structure Message.Precursor (x m : Message) : Prop where
  id : x.id = m.id
  role : x.role = m.role
  calls : x.toolCalls ≠ [] → m.toolCalls ≠ []

theorem Message.Alike.precursor {x m : Message} (h : Message.Alike x m) :
    Message.Precursor x m := by
  refine ⟨h.id, h.role, fun hne hnil => hne ?_⟩
  rwa [← Message.callIds_eq_nil, h.callIds, Message.callIds_eq_nil]

/-- A version of a message is the last of a transcript, which is well paired before it. -/
def Current (V : Message → Message → Prop) (log : List Message) (m : Message) : Prop :=
  ∃ before x, log = before ++ [x] ∧ Paired before ∧ (∀ y ∈ before, y.id ≠ m.id) ∧ V x m

/-- A message is in a transcript, in a version like this one. -/
structure Settled (log : List Message) (m : Message) : Prop where
  found : ∃ x ∈ log, x.id = m.id
  alike : ∀ x ∈ log, x.id = m.id → Message.Alike x m

/-- A message is settled in a transcript that is well paired. -/
structure Filed (log : List Message) (m : Message) : Prop extends Settled log m where
  paired : Paired log

namespace Current

variable {log : List Message} {m m' : Message}

theorem imp {V W : Message → Message → Prop} (h : Current V log m) (hid : m'.id = m.id)
    (himp : ∀ x, V x m → W x m') : Current W log m' := by
  obtain ⟨before, x, rfl, hpaired, hother, hv⟩ := h
  exact ⟨before, x, rfl, hpaired, fun y hy => hid ▸ hother y hy, himp x hv⟩

theorem trans (h : Current Message.Alike log m) (halike : Message.Alike m m') :
    Current Message.Alike log m' :=
  h.imp halike.id.symm fun _ hx => hx.trans halike

/-- A message that was just created is current. -/
theorem create (h : Paired log) (hfresh : ∀ x ∈ log, x.id ≠ m.id) :
    Current Message.Alike (log ++ [m]) m :=
  ⟨log, m, rfl, h, hfresh, Message.Alike.refl m⟩

/-- Saving a message makes it current. -/
theorem save {V : Message → Message → Prop} (h : Current V log m) (hV : ∀ x, V x m → x.id = m.id)
    (now : Timestamp) : Current Message.Alike (rewrite (m.savedAt now) log) m := by
  obtain ⟨before, x, rfl, hpaired, hother, hv⟩ := h
  have hbefore : rewrite (m.savedAt now) before = before := rewrite_of_ne hother
  have hlast : rewrite (m.savedAt now) [x] = [m.savedAt now] := rewrite_singleton (hV x hv)
  rw [rewrite_append, hbefore, hlast]
  exact ⟨before, _, rfl, hpaired, hother, (m.alike_savedAt now).symm⟩

/-- A message of the assistant without calls needs no answer. -/
theorem filed (h : Current Message.Alike log m) (hrole : m.role = .assistant)
    (hcalls : m.toolCalls = []) : Filed log m := by
  obtain ⟨before, x, rfl, hpaired, hother, hx⟩ := h
  have hplain : Paired [x] :=
    .plain (fun ha => (hx.asks_iff.mp ha).2 hcalls) (by simp [hx.role, hrole])
  refine ⟨⟨⟨x, by simp, hx.id⟩, fun y hy hid => ?_⟩, hpaired.append hplain⟩
  rcases List.mem_append.mp hy with hy | hy
  · exact absurd hid (hother y hy)
  · exact List.mem_singleton.mp hy ▸ hx

/-- The answer to a message that asks puts the transcript in order. -/
theorem answer {t : Message} (h : Current Message.Alike log m) (hasks : m.asks)
    (hanswer : t.answers m) (hfresh : ∀ x ∈ log, x.id ≠ t.id) : Filed (log ++ [t]) m := by
  obtain ⟨before, x, rfl, hpaired, hother, hx⟩ := h
  have hanswer' : t.answers x := (hx.answers_iff (Message.Alike.refl t)).mpr hanswer
  have hpair : Paired [x, t] :=
    .exchange (Message.precedes_of_answers (hx.asks_iff.mpr hasks) hanswer')
      (by simp [hx.role, hasks.1]) hanswer.1
  have hne : t.id ≠ m.id := by
    rw [← hx.id]
    exact (hfresh x (by simp)).symm
  refine ⟨⟨⟨x, by simp, hx.id⟩, fun y hy hid => ?_⟩, by simpa using hpaired.append hpair⟩
  simp only [List.append_assoc, List.mem_append, List.mem_cons, List.not_mem_nil, or_false,
    List.cons_append, List.nil_append] at hy
  rcases hy with hy | rfl | rfl
  · exact absurd hid (hother y hy)
  · exact hx
  · exact absurd hid hne

end Current

theorem Settled.trans {log : List Message} {m m' : Message} (h : Settled log m)
    (halike : Message.Alike m m') : Settled log m' := by
  refine ⟨?_, fun x hx hid => (h.alike x hx (hid.trans halike.id.symm)).trans halike⟩
  obtain ⟨x, hx, hid⟩ := h.found
  exact ⟨x, hx, hid.trans halike.id⟩

namespace Filed

variable {log : List Message} {m m' : Message}

theorem trans (h : Filed log m) (halike : Message.Alike m m') : Filed log m' :=
  ⟨h.toSettled.trans halike, h.paired⟩

theorem save (h : Filed log m) (now : Timestamp) : Paired (rewrite (m.savedAt now) log) :=
  h.paired.rewrite fun x hx hid => (h.alike x hx hid).trans (m.alike_savedAt now)

end Filed

/-! ## The transcript in each phase -/

/-- What the transcript looks like in a phase of a turn that has it to itself. -/
def TurnPhase.Fits (log : List Message) : TurnPhase → Prop
  | .opening _ m | .streaming _ m | .accounting _ m _ | .charging _ m _
  | .dispatching _ m _ _ _ | .awaiting _ m _ _ _ | .stopping _ m _ | .recording _ m _
  | .failing m _ _ => Current Message.Alike log m
  | .saving _ m _ => Current Message.Precursor log m
  | .excusing calls _ =>
    ∃ m, Current Message.Alike log m ∧ m.asks ∧ calls.map (·.id) = m.callIds
  | .closing m => Filed log m
  | _ => Paired log

/-- What the transcript looks like behind a step: in order, once the turn is over. -/
def TurnProgress.Fits (log : List Message) : TurnProgress → Prop
  | .next p => p.Fits log
  | .stop _ => Paired log

namespace TurnPhase

variable {setup : TurnSetup} {now : Timestamp} {history log log' : List Message} {m : Message}

theorem fits_afterRound (h : Filed log m) (tools : Option Message) :
    (afterRound now history m tools).Fits log := by
  cases hafter : afterRound now history m tools with
  | stop outcome => exact h.paired
  | next p =>
    rcases afterRound_eq_next hafter with ⟨t, -, rfl⟩ | ⟨-, rfl⟩ | ⟨-, rfl⟩
    · exact h.paired
    · exact h.paired
    · exact h.trans (Message.alike_addFinish ..)

theorem fits_abort (h : Current Message.Alike log m) (cause : TurnFailure) :
    (abort now m cause).Fits log := by
  obtain ⟨m', heq, halike⟩ := abort_eq now m cause
  rw [heq]
  exact h.trans halike

theorem fits_record (h : Paired log) (prompts : List String) :
    (record history prompts).Fits log := by
  rcases record_cases history prompts with ⟨heq, -⟩ | ⟨p, rest, heq⟩ <;> rw [heq] <;> exact h

theorem fits_nextCall (h : Current Message.Alike log m) (history : List Message)
    (results : List ToolResult) (rest : List ToolCall) :
    (nextCall history m results rest).Fits log := by
  cases rest <;> exact h

theorem fits_stopTools (h : Current Message.Alike log m) (now : Timestamp)
    (history : List Message) (results : List ToolResult) (calls : List ToolCall) :
    (stopTools now history m results calls).Fits log :=
  h.trans (Message.alike_addFinish ..)

theorem answers_resultsDraft {model : Model} {results : List ToolResult} {id sid : String}
    (h : results.map (·.callId) = m.callIds) :
    ((resultsDraft model results).toMessage id sid now).answers m := by
  refine ⟨rfl, ?_⟩
  have hresults : ((resultsDraft model results).toMessage id sid now).toolResults = results := by
    simp [Message.toolResults, Draft.toMessage, resultsDraft, List.filterMap_map,
      Function.comp_def, Part.toolResult?]
  rw [hresults, h]

/-- A prompt neither asks nor answers. -/
theorem plain_userDraft {text id sid : String} {files : List Binary}
    {R : Message → Message → Prop} : Linked R [(userDraft text files).toMessage id sid now] :=
  .plain (by simp [Message.asks, Draft.toMessage, userDraft])
    (by simp [Draft.toMessage, userDraft])

theorem Leads.coherent {p p' : TurnPhase} (hp : p.Coherent)
    (h : p.Leads setup summary canceled log log' (.next p')) : p'.Coherent := by
  obtain ⟨now, reply, hs, hnext⟩ := h
  exact coherent_resume hp hs.honest hnext

/-- **A turn that has the transcript to itself keeps it in order.** -/
theorem Leads.fits {p : TurnPhase} {progress : TurnProgress} (hp : p.Coherent) (hf : p.Fits log)
    (h : p.Leads setup summary canceled log log' progress) : progress.Fits log' := by
  obtain ⟨now, reply, hs, rfl⟩ := h
  cases p with
  | listing =>
    obtain ⟨rfl, rfl⟩ := hs
    exact hf
  | reading history =>
    obtain ⟨⟨s, rfl, -⟩, rfl⟩ := hs
    exact hf
  | prompting history =>
    obtain ⟨id, now', -, rfl, rfl⟩ := hs
    exact hf.append plain_userDraft
  | round history =>
    obtain ⟨-, rfl⟩ := hs
    simp only [resume]
    split <;> exact hf
  | answering history =>
    obtain ⟨id, now', hfresh, rfl, rfl⟩ := hs
    exact Current.create hf hfresh
  | opening history m =>
    obtain ⟨-, rfl⟩ := hs
    simp only [resume]
    split
    · exact hf.trans (alike_closeFor ..)
    · exact hf.trans (alike_closeFor ..)
    · exact (hf.filed hp.1 hp.2).paired
    · exact hf
  | streaming history m =>
    obtain ⟨-, rfl⟩ := hs
    simp only [resume]
    split
    · exact fits_abort hf .canceled
    · unfold afterStream
      split
      · rename_i hcalls
        exact fits_afterRound (hf.filed hp hcalls) none
      · exact hf
    · split
      · rename_i he
        obtain ⟨hid, hrole, hcalls⟩ := applyEvent_keeps he
        exact hf.imp hid fun x hx =>
          ⟨hx.id.trans hid.symm, hx.role.trans hrole.symm,
            fun hne => hcalls (hx.precursor.calls hne)⟩
      · exact fits_abort hf _
  | saving history m tokens =>
    obtain ⟨rfl, now', rfl⟩ := hs
    have hsaved := hf.save (fun x hx => hx.id) now'
    simp only [resume]
    split <;> exact hsaved
  | accounting history m tokens =>
    obtain ⟨⟨s, rfl, -⟩, rfl⟩ := hs
    exact hf
  | charging history m session =>
    obtain ⟨⟨s, rfl⟩, rfl⟩ := hs
    exact hf
  | dispatching history m results call rest =>
    obtain ⟨-, rfl⟩ := hs
    simp only [resume]
    split
    · exact fits_stopTools hf now history results (call :: rest)
    · exact fits_nextCall hf ..
    · exact hf
  | awaiting history m results call rest =>
    obtain ⟨-, rfl⟩ := hs
    simp only [resume]
    split
    · exact fits_stopTools hf now history results (call :: rest)
    · exact fits_nextCall hf ..
    · exact hf.trans (Message.alike_addFinish ..)
    · exact fits_nextCall hf ..
  | stopping history m results =>
    obtain ⟨rfl, now', rfl⟩ := hs
    exact hf.save (fun x hx => hx.id) now'
  | recording history m results =>
    obtain ⟨hrole, hcalls, hids⟩ := hp
    obtain ⟨id, now', hfresh, rfl, rfl⟩ := hs
    exact fits_afterRound (hf.answer ⟨hrole, hcalls⟩ (answers_resultsDraft hids) hfresh) _
  | draining history =>
    obtain rfl := hs
    exact fits_record hf _
  | taking history m =>
    obtain ⟨-, rfl⟩ := hs
    simp only [resume]
    split
    · exact hf
    · split
      · exact hf
      · exact fits_record hf _
  | queuing history prompt rest =>
    obtain ⟨id, now', -, rfl, rfl⟩ := hs
    simp only [resume]
    split <;> exact hf.append plain_userDraft
  | failing m calls cause =>
    obtain ⟨rfl, now', rfl⟩ := hs
    have hsaved := hf.save (fun x hx => hx.id) now'
    simp only [resume]
    split
    · rename_i hnone
      refine (hsaved.filed hp.1 ?_).paired
      rw [← Message.callIds_eq_nil, ← hp.2, List.isEmpty_iff.mp hnone, List.map_nil]
    · rename_i hsome
      refine ⟨m, hsaved, ⟨hp.1, fun hnil => hsome ?_⟩, hp.2⟩
      simpa [Message.callIds_eq_nil.mpr hnil] using hp.2
  | excusing calls cause =>
    obtain ⟨m, hm, hasks, hids⟩ := hf
    obtain ⟨id, now', hfresh, rfl, rfl⟩ := hs
    refine (hm.answer hasks (answers_resultsDraft ?_) hfresh).paired
    rw [map_callId_canceledResults, hids]
  | closing m =>
    obtain ⟨rfl, now', rfl⟩ := hs
    exact hf.save now'

end TurnPhase

end AgentDesk
