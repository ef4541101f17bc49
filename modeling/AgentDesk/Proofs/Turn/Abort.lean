import AgentDesk.Proofs.Turn.Streaming
/-!
# What an aborted stream leaves

A turn gives up its stream when it is canceled, when the stream reports a failure, or when the store
fails to keep what the stream delivered. The message is then closed as it stands: its calls are
marked as finished, it has one mark, and its calls are answered as canceled.

The calls are finished one by one by their identifiers, and an identifier finds the first call that
has it. All of them are reached all the same, for a later call with the same identifier is never
open: an announced call takes the place of the first one with its identifier, and an answer that
lists calls lists them as finished.

## Main definitions

* `ToolCall.FirstOpen` — only the first call with an identifier may be open.
* `Exchange.givesUp?` — why a turn gives up its stream.
* `TurnPhase.Streams` — a phase in which the stream is open.
* `Message.Gathers` — what events leave in a message; `Message.Aborted` — how it is closed then.
-/

namespace AgentDesk

namespace ToolCall

variable {calls before after : List ToolCall} {c c' : ToolCall}

/-! ## Which calls may be open -/

/-- Only the first call with an identifier may be open. -/
def FirstOpen (calls : List ToolCall) : Prop :=
  calls.Pairwise fun a b => a.id = b.id → b.finished

/-- The first call with an identifier may be any. -/
theorem FirstOpen.replace (h : FirstOpen (before ++ c :: after))
    (hbefore : ∀ b ∈ before, b.id ≠ c.id)
    (hid : c'.id = c.id) : FirstOpen (before ++ c' :: after) := by
  unfold FirstOpen at h ⊢
  rw [List.pairwise_append, List.pairwise_cons] at h ⊢
  obtain ⟨hfirst, ⟨hlater, hafter⟩, hcross⟩ := h
  refine ⟨hfirst, ⟨fun b hb heq => hlater b hb (hid ▸ heq), hafter⟩, fun a ha b hb heq => ?_⟩
  rcases List.mem_cons.mp hb with rfl | hb
  · exact absurd (heq.trans hid) (hbefore a ha)
  · exact hcross a ha b (List.mem_cons_of_mem c hb) heq

theorem FirstOpen.recordIn (h : FirstOpen calls) (call : ToolCall) :
    FirstOpen (call.recordIn calls) := by
  unfold ToolCall.recordIn changeFirstOr
  rcases changeFirst?_id_cases call.id (fun _ => call) calls with
    ⟨hnone, heq⟩ | ⟨before, c, after, rfl, hbefore, hid, heq⟩ <;> rw [heq]
  · refine List.pairwise_append.mpr ⟨h, List.pairwise_singleton .., fun a ha b hb hids => ?_⟩
    rw [List.mem_singleton.mp hb] at hids
    exact absurd hids (hnone a ha)
  · exact h.replace (hid ▸ hbefore) hid.symm

theorem FirstOpen.changeIn (h : FirstOpen calls) (id : String) {f : ToolCall → ToolCall}
    (keeps : ∀ c, (f c).id = c.id) : FirstOpen (changeIn id f calls) := by
  unfold ToolCall.changeIn
  rcases changeFirst?_id_cases id f calls with
    ⟨-, heq⟩ | ⟨before, c, after, rfl, hbefore, hid, heq⟩ <;> rw [heq]
  · exact h
  · exact h.replace (hid ▸ hbefore) (keeps c)

theorem firstOpen_finished (calls : List ToolCall) : FirstOpen (calls.map finish) :=
  List.pairwise_map.mpr (List.pairwise_of_forall fun _ _ _ => rfl)

/-- **No event opens a call behind another one with its identifier.** -/
theorem FirstOpen.onCalls (h : FirstOpen calls) (e : StreamEvent) :
    FirstOpen (e.onCalls calls) := by
  cases e with
  | toolStart c => exact h.recordIn c
  | toolDelta id d => exact h.changeIn id fun _ => rfl
  | toolStop id => exact h.changeIn id fun _ => rfl
  | complete a =>
    by_cases hnone : a.toolCalls = []
    · rwa [StreamEvent.onCalls, if_pos hnone]
    · rw [StreamEvent.onCalls, if_neg hnone]
      exact firstOpen_finished a.toolCalls
  | thinking | signature | content | failed => exact h

theorem FirstOpen.announcedCalls (h : FirstOpen calls) (events : List StreamEvent) :
    FirstOpen (announcedCalls calls events) := by
  induction events generalizing calls with
  | nil => exact h
  | cons e events ih => exact ih (h.onCalls e)

/-- Finishing the open calls by their identifiers finishes all calls behind some that are finished.
-/
theorem FirstOpen.foldl_finish (before : List ToolCall) (h : FirstOpen calls)
    (hopen : ∀ b ∈ before, ∀ c ∈ calls, b.id = c.id → c.finished) :
    (calls.filter fun c => !c.finished).foldl (fun calls c => ToolCall.changeIn c.id finish calls)
      (before ++ calls) = before ++ calls.map finish := by
  induction calls generalizing before with
  | nil => rfl
  | cons c calls ih =>
    obtain ⟨hlater, hcalls⟩ := List.pairwise_cons.mp h
    have hrest := ih (before ++ [c.finish]) hcalls fun b hb c' hc' heq => by
      rcases List.mem_append.mp hb with hb | hb
      · exact hopen b hb c' (List.mem_cons_of_mem c hc') heq
      · rw [List.mem_singleton.mp hb] at heq
        exact hlater c' hc' heq
    rw [List.append_assoc, List.append_assoc] at hrest
    cases hfinished : c.finished with
    | true =>
      have hc : c.finish = c := by rw [finish, ← hfinished]
      rw [List.filter_cons_of_neg (by simp [hfinished]), List.map_cons]
      rwa [hc] at hrest ⊢
    | false =>
      have hbefore : ∀ b ∈ before, b.id ≠ c.id := fun b hb heq => by
        simpa [hfinished] using hopen b hb c List.mem_cons_self heq
      rw [List.filter_cons_of_pos (by simp [hfinished]), List.foldl_cons,
        changeIn_append_cons finish hbefore rfl]
      exact hrest

end ToolCall

/-! ## Giving up -/

/-- Why a turn gives up its stream: it is canceled, the stream reports a failure, or the store does
not keep the message or what was spent on it. -/
def Exchange.givesUp? : Exchange → Option TurnFailure
  | ⟨.nextEvent, (reply : NextEvent)⟩ =>
    match reply with
    | .canceled => some .canceled
    | .event (.failed cause) => some (.provider cause)
    | .event _ | .closed => none
  | ⟨.updateMessage _, (reply : Except StoreFailure Unit)⟩ =>
    match reply with
    | .error cause => some (.store "failed to update message" cause)
    | .ok () => none
  | ⟨.readSession, (reply : Except StoreFailure Session)⟩ =>
    match reply with
    | .error cause => some (.store "failed to get session" cause)
    | .ok _ => none
  | ⟨.saveSession _, (reply : Except StoreFailure Session)⟩ =>
    match reply with
    | .error cause => some (.store "failed to save session" cause)
    | .ok _ => none
  | _ => none

namespace Message

/-- A message consists of what events delivered. -/
structure Gathers (m : Message) (events : List StreamEvent) : Prop where
  content : m.content = String.join (events.map StreamEvent.text)
  thinking : m.thinking = String.join (events.map StreamEvent.thought)
  signature : m.signature = String.join (events.map StreamEvent.signed)
  calls : m.toolCalls = announcedCalls [] events

/-- A message is closed as it stands: it has one mark, which says why, and its calls are finished.
-/
structure Aborted (m : Message) (cause : TurnFailure) (closed : Message) : Prop where
  id : closed.id = m.id
  marks : closed.marks.map (·.reason) = [if cause.isCanceled then .canceled else .error]
  content : closed.content = m.content
  reasoning : closed.reasoning? = m.reasoning?
  calls : closed.toolCalls = m.toolCalls.map ToolCall.finish

end Message

namespace TurnPhase

variable {setup : TurnSetup} {p : TurnPhase} {now : Timestamp} {history : List Message}
  {m acc closed : Message} {read rest es : List Exchange} {gives : Exchange}
  {progress : TurnProgress} {cause : TurnFailure} {outcome : Except TurnFailure Message}

/-- The stream is open. -/
def Streams : TurnPhase → Prop
  | .streaming _ _ | .saving _ _ _ | .accounting _ _ _ | .charging _ _ _ => True
  | _ => False

/-- **One step of a turn whose stream is open**: it gives up the stream, or sees it close, or goes
on with a message to which an event was applied if one was delivered. -/
theorem Streams.resume_cases (hp : p.Streams) (hm : p.message? = some m) (now : Timestamp)
    (reply : (p.request setup).Reply) :
    (∃ cause, Exchange.givesUp? ⟨p.request setup, reply⟩ = some cause ∧
      p.resume setup now reply = .next (abort now m cause)) ∨
    Exchange.givesUp? ⟨p.request setup, reply⟩ = none ∧
      (Exchange.closes ⟨p.request setup, reply⟩ = true ∨
        ∃ p' m', p.resume setup now reply = .next p' ∧ p'.Streams ∧ p'.message? = some m' ∧
          applyEvents m ((Exchange.delivered? ⟨p.request setup, reply⟩).toList.map (now, ·)) =
            .ok m') := by
  cases p with
  | streaming history x =>
    cases hm
    cases (reply : NextEvent) with
    | canceled => exact .inl ⟨_, rfl, rfl⟩
    | closed => exact .inr ⟨rfl, .inl rfl⟩
    | event e =>
      cases e with
      | failed cause => exact .inl ⟨_, rfl, rfl⟩
      | _ => exact .inr ⟨rfl, .inr ⟨_, _, rfl, trivial, rfl, rfl⟩⟩
  | saving history x tokens =>
    cases hm
    cases (reply : Except StoreFailure Unit) with
    | error cause => exact .inl ⟨_, rfl, rfl⟩
    | ok done => cases tokens <;> exact .inr ⟨rfl, .inr ⟨_, _, rfl, trivial, rfl, rfl⟩⟩
  | accounting history x tokens =>
    cases hm
    cases (reply : Except StoreFailure Session) with
    | error cause => exact .inl ⟨_, rfl, rfl⟩
    | ok session => exact .inr ⟨rfl, .inr ⟨_, _, rfl, trivial, rfl, rfl⟩⟩
  | charging history x session =>
    cases hm
    cases (reply : Except StoreFailure Session) with
    | error cause => exact .inl ⟨_, rfl, rfl⟩
    | ok session => exact .inr ⟨rfl, .inr ⟨_, _, rfl, trivial, rfl, rfl⟩⟩
  | _ => cases hp

theorem applyEvents_append {m₁ : Message} {log more : List (Timestamp × StreamEvent)}
    (h : applyEvents m log = .ok m₁) : applyEvents m (log ++ more) = applyEvents m₁ more := by
  induction log generalizing m with
  | nil =>
    cases h
    rfl
  | cons entry log ih =>
    rw [applyEvents] at h
    rw [List.cons_append, applyEvents]
    split at h
    · exact ih h
    · cases h

/-- **A turn that gives up its stream aborts the message that the events left.** -/
theorem Course.gives_up (h : Course setup p (read ++ [gives]) progress) (hp : p.Streams)
    (hm : p.message? = some m) (hopen : read.any Exchange.closes = false)
    (hkept : read.filterMap Exchange.givesUp? = []) (hgives : gives.givesUp? = some cause) :
    ∃ now log acc, log.map (·.2) = read.filterMap Exchange.delivered? ∧
      applyEvents m log = .ok acc ∧ progress = .next (abort now acc cause) := by
  -- Induction on what was exchanged before; each exchange applies the event that it delivers.
  induction read generalizing p m with
  | nil =>
    obtain ⟨now, reply, rfl, hfrom⟩ := h.cons_inv
    rcases hp.resume_cases hm now reply with ⟨cause', hcause, hnext⟩ | ⟨hnone, -⟩
    · obtain rfl := Option.some.inj (hcause.symm.trans hgives)
      rw [hnext] at hfrom
      cases hfrom
      exact ⟨now, [], m, rfl, rfl, rfl⟩
    · cases hnone.symm.trans hgives
  | cons e read ih =>
    obtain ⟨now, reply, rfl, hfrom⟩ := h.cons_inv
    obtain ⟨hcloses, hopen⟩ := Bool.or_eq_false_iff.mp (List.any_cons ▸ hopen)
    have hnone := List.filterMap_eq_nil_iff.mp hkept _ List.mem_cons_self
    rw [List.filterMap_cons_none hnone] at hkept
    rcases hp.resume_cases hm now reply with
      ⟨cause', hcause, -⟩ | ⟨-, hcloses' | ⟨p', m', hnext, hp', hm', happly⟩⟩
    · cases hnone.symm.trans hcause
    · cases hcloses.symm.trans hcloses'
    · rw [hnext] at hfrom
      obtain ⟨now', log, acc, hlog, hacc, hprogress⟩ :=
        ih hfrom hp' hm' hopen hkept
      refine ⟨now', _, acc, ?_, (applyEvents_append happly).trans hacc, hprogress⟩
      rw [List.map_append, hlog, List.filterMap_cons]
      cases Exchange.delivered? ⟨p.request setup, reply⟩ <;> rfl

/-! ## Closing the message -/

/-- No event that was applied reports a failure. -/
theorem not_failed_of_applyEvents {log : List (Timestamp × StreamEvent)}
    (h : applyEvents m log = .ok acc) (cause : ProviderFailure) :
    .failed cause ∉ log.map (·.2) := by
  induction log generalizing m with
  | nil => simp
  | cons entry log ih =>
    obtain ⟨now, e⟩ := entry
    rw [applyEvents] at h
    split at h
    · next hstep =>
      rw [List.map_cons, List.mem_cons, not_or]
      refine ⟨?_, ih h⟩
      rintro rfl
      cases hstep
    · cases h

theorem gathers_of_applyEvents {log : List (Timestamp × StreamEvent)} (hm : m.parts = [])
    (h : applyEvents m log = .ok acc) : acc.Gathers (log.map (·.2)) := by
  obtain ⟨m', heq, hcalls, hcontent, hthinking, hsignature⟩ :=
    applyEvents_eq_ok m (not_failed_of_applyEvents h)
  obtain rfl := Except.ok.inj (h.symm.trans heq)
  constructor
  · simpa [Message.content, hm] using hcontent
  · simpa [Message.thinking, Message.reasoning?, hm] using hthinking
  · simpa [Message.signature, Message.reasoning?, hm] using hsignature
  · simpa [Message.toolCalls, hm] using hcalls

theorem id_applyEvents {log : List (Timestamp × StreamEvent)} (h : applyEvents m log = .ok acc) :
    acc.id = m.id := by
  induction log generalizing m with
  | nil =>
    cases h
    rfl
  | cons entry log ih =>
    rw [applyEvents] at h
    split at h
    · next hstep => exact (ih h).trans (applyEvent_keeps hstep).1
    · cases h

theorem toolCalls_finishCalls (now : Timestamp) (h : ToolCall.FirstOpen m.toolCalls) :
    (finishCalls now m).toolCalls = m.toolCalls.map ToolCall.finish := by
  have hfold (calls : List ToolCall) (x : Message) :
      (calls.foldl (fun m c => m.finishToolCall now c.id) x).toolCalls =
        calls.foldl (fun calls c => ToolCall.changeIn c.id ToolCall.finish calls) x.toolCalls := by
    induction calls generalizing x with
    | nil => rfl
    | cons c calls ih =>
      rw [List.foldl_cons, ih, Message.finishToolCall, Message.toolCalls_changeCall]
      rfl
  rw [finishCalls, hfold]
  exact h.foldl_finish [] (by simp)

theorem readings_finishCalls (now : Timestamp) (m : Message) :
    (finishCalls now m).content = m.content ∧ (finishCalls now m).reasoning? = m.reasoning? := by
  unfold finishCalls
  generalize (m.toolCalls.filter fun c => !c.finished) = calls
  induction calls generalizing m with
  | nil => exact ⟨rfl, rfl⟩
  | cons c calls ih =>
    obtain ⟨hcontent, hreasoning⟩ := ih (m.finishToolCall now c.id)
    exact ⟨hcontent.trans (Message.content_changeCall ..),
      hreasoning.trans (Message.reasoning?_changeCall ..)⟩

/-- **Giving up closes a message as it stands**, if only the first call with an identifier is open.
-/
theorem aborted_of_firstOpen (now : Timestamp) (cause : TurnFailure)
    (h : ToolCall.FirstOpen m.toolCalls) :
    m.Aborted cause (closeFor now cause (finishCalls now m)) := by
  obtain ⟨hcontent, hreasoning⟩ := readings_finishCalls now m
  have hcalls := toolCalls_finishCalls now h
  have hid : (finishCalls now m).id = m.id := (alike_finishCalls now m).id.symm
  unfold closeFor
  cases hcause : cause.isCanceled <;> constructor <;>
    simp [hcause, hid, hcontent, hreasoning, hcalls]

/-! ## The end of the turn -/

/-- The tool messages that were created: who speaks in them, and the results that they hold. -/
def answersIn (es : List Exchange) : List (Role × List ToolResult) :=
  (es.filterMap Exchange.created?).map fun t => (t.role, t.toolResults)

/-- A turn that failed ends with its failure; it saves its message, and answers its calls. -/
theorem Course.failing {calls : List ToolCall}
    (h : Course setup (.failing closed calls cause) es (.stop outcome))
    (hes : ∀ e ∈ es, e.Accepted ∧ e.request.Honest e.reply) :
    outcome = .error cause ∧ es.filterMap Exchange.saved? = [closed] ∧
      answersIn es = if calls = [] then [] else [(.tool, canceledResults calls)] := by
  obtain ⟨now, reply, rest, rfl, hrest⟩ := h.inv
  obtain rfl : reply = .ok () := (hes _ List.mem_cons_self).1
  cases calls with
  | nil =>
    rcases hrest with ⟨rfl, hstop⟩ | ⟨p', hnext, -⟩
    · cases hstop
      exact ⟨rfl, rfl, rfl⟩
    · cases hnext
  | cons c calls =>
    rcases hrest with ⟨-, hstop⟩ | ⟨p', hnext, hcourse⟩
    · cases hstop
    · cases hnext
      obtain ⟨now', reply', rest', rfl, hrest'⟩ := hcourse.inv
      obtain ⟨haccepted, hhonest⟩ := hes _ (List.mem_cons_of_mem _ List.mem_cons_self)
      obtain ⟨t, rfl⟩ : ∃ t, reply' = .ok t := haccepted
      obtain ⟨hrole, hparts⟩ := hhonest t rfl
      rcases hrest' with ⟨rfl, hstop⟩ | ⟨p', hnext, -⟩
      · cases hstop
        have hresults : t.toolResults = canceledResults (c :: calls) := results_eq hparts
        refine ⟨rfl, rfl, ?_⟩
        show [(t.role, t.toolResults)] = _
        rw [hresults, hrole]
        rfl
      · cases hnext

/-- A turn that failed comes to its end. -/
theorem exists_course_failing (setup : TurnSetup) (closed : Message) (calls : List ToolCall)
    (cause : TurnFailure) :
    ∃ es outcome, Course setup (.failing closed calls cause) es (.stop outcome) ∧
      ∀ e ∈ es, e.Accepted ∧ e.request.Honest e.reply := by
  let draft := resultsDraft setup.model (canceledResults calls)
  let saved : Exchange := ⟨.updateMessage closed, Except.ok ()⟩
  let created : Exchange := ⟨.createMessage draft, Except.ok (draft.toMessage "" "" default)⟩
  have hsaved : saved.Accepted ∧ saved.request.Honest saved.reply := ⟨rfl, trivial⟩
  have hcreated : created.Accepted ∧ created.request.Honest created.reply :=
    ⟨⟨_, rfl⟩, fun t ht => Except.ok.inj ht ▸ ⟨rfl, rfl⟩⟩
  cases calls with
  | nil =>
    refine ⟨[saved], .error cause, .stops (rfl : resume setup default _ _ = _), ?_⟩
    simpa using hsaved
  | cons c calls =>
    refine ⟨[saved, created], .error cause,
      .goesOn (rfl : resume setup default _ _ = _)
        (.stops (rfl : resume setup default _ _ = _)), ?_⟩
    simpa using ⟨hsaved, hcreated⟩

theorem canceledResults_finish (calls : List ToolCall) :
    canceledResults (calls.map ToolCall.finish) = canceledResults calls := by
  simp [canceledResults, errorResult, ToolCall.finish]

/-- **An aborted stream is closed completely.** A turn gives up the stream of a fresh message after
some events. The message that it saves then has one mark, its calls are finished, and all else is
what the events left; it is the only one that is saved. A message with results is created if there
are calls, and it holds one result for each of them, in order. -/
theorem aborted_stream (hm : m.parts = [])
    (h : Course setup (.streaming history m) (read ++ [gives]) progress)
    (hopen : read.any Exchange.closes = false) (hkept : read.filterMap Exchange.givesUp? = [])
    (hgives : gives.givesUp? = some cause) :
    ∃ log acc closed, log.map (·.2) = read.filterMap Exchange.delivered? ∧
      applyEvents m log = .ok acc ∧ acc.Gathers (log.map (·.2)) ∧ acc.id = m.id ∧
      acc.Aborted cause closed ∧
      (∃ rest outcome, CourseFrom setup progress rest (.stop outcome) ∧
        ∀ e ∈ rest, e.Accepted ∧ e.request.Honest e.reply) ∧
      ∀ rest outcome, CourseFrom setup progress rest (.stop outcome) →
        (∀ e ∈ rest, e.Accepted ∧ e.request.Honest e.reply) →
        outcome = .error cause ∧ rest.filterMap Exchange.saved? = [closed] ∧
          answersIn rest =
            if closed.toolCalls = [] then [] else [(.tool, canceledResults closed.toolCalls)] := by
  obtain ⟨now, log, acc, hlog, hacc, rfl⟩ := h.gives_up trivial rfl hopen hkept hgives
  have hgathers := gathers_of_applyEvents hm hacc
  have hfirst : ToolCall.FirstOpen acc.toolCalls := by
    rw [hgathers.calls]
    exact ToolCall.FirstOpen.announcedCalls .nil _
  have haborted := aborted_of_firstOpen now cause hfirst
  refine ⟨log, acc, _, hlog, hacc, hgathers, id_applyEvents hacc, haborted,
    exists_course_failing .., fun rest outcome hrest hes => ?_⟩
  obtain ⟨houtcome, hsaved, hanswers⟩ := Course.failing hrest hes
  refine ⟨houtcome, hsaved, hanswers.trans ?_⟩
  rw [haborted.calls, canceledResults_finish]
  simp

/-- An answer lists a call twice, the first of the two is announced anew, and the turn is canceled:
both calls are finished, and both are answered. -/
theorem aborted_stream_restarted : ∃ read progress rest outcome closed,
    Course briefTurn (.streaming [] briefAnswer) (read ++ [⟨.nextEvent, NextEvent.canceled⟩])
      progress ∧
    read.filterMap Exchange.delivered? = [.toolStart briefCall,
      .complete ⟨"", [briefCall, briefCall], .zero, .toolUse⟩, .toolStart briefCall] ∧
    CourseFrom briefTurn progress rest (.stop outcome) ∧
    rest.filterMap Exchange.saved? = [closed] ∧
    closed.toolCalls = [briefCall.finish, briefCall.finish] ∧
    closed.marks.map (·.reason) = [.canceled] ∧
    answersIn rest = [(.tool, canceledResults [briefCall, briefCall])] := by
  have h : Course briefTurn (.streaming [] briefAnswer) [] _ := .here _
  have h := h.snoc default (NextEvent.event (.toolStart briefCall)) rfl
  have h := h.snoc default (Except.ok ()) rfl
  have h := h.snoc default
    (NextEvent.event (.complete ⟨"", [briefCall, briefCall], .zero, .toolUse⟩)) rfl
  have h := h.snoc default (Except.ok ()) rfl
  have h := h.snoc default (Except.ok default) rfl
  have h := h.snoc default (Except.ok default) rfl
  have h := h.snoc default (NextEvent.event (.toolStart briefCall)) rfl
  have h := h.snoc default (Except.ok ()) rfl
  have h := h.snoc default NextEvent.canceled rfl
  have h : Course briefTurn (.streaming [] briefAnswer)
    ([_, _, _, _, _, _, _, _] ++ [⟨.nextEvent, NextEvent.canceled⟩]) _ := h
  obtain ⟨log, acc, closed, hlog, -, hgathers, -, haborted, ⟨rest, outcome, hcourse, hes⟩, hrest⟩ :=
    aborted_stream rfl h rfl rfl rfl
  obtain ⟨-, hsaved, hanswers⟩ := hrest rest outcome hcourse hes
  have hcalls : closed.toolCalls = [briefCall.finish, briefCall.finish] := by
    rw [haborted.calls, hgathers.calls, hlog]
    rfl
  rw [hcalls] at hanswers
  exact ⟨_, _, rest, outcome, closed, h, rfl, hcourse, hsaved, hcalls, haborted.marks, hanswers⟩

end TurnPhase

end AgentDesk
