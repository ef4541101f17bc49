import AgentDesk.Proofs.Desk.Attendance
/-!
# What becomes of the calls of an answer

A turn runs the tools of an answer one after another, and answers every call. A call for which there
is no tool is answered with that, and a tool that fails is answered with its failure. A denial and a
cancellation stop the tools: the calls that are left are answered as canceled, and the message is
closed with the reason. Up to there each tool that is known is invoked once, in the order of the
calls, and none is invoked behind it.

## Main definitions

* `HandledCall` — a call that was answered while the tools went on.
* `ToolsEnd` — how running the tools can end.
* `ToolStand` — where a turn stands while it runs its tools.
-/

namespace AgentDesk

open TurnPhase (errorResult toolUnknown permissionDenied requestCanceled resultOf canceledResults
  nextCall)

/-- The outcome of a tool that a turn waited for. -/
def Exchange.outcome? : Exchange → Option ToolOutcome
  | ⟨.awaitTool, (reply : ToolEnd)⟩ =>
    match reply with
    | .ended outcome => some outcome
    | .canceled => none
  | _ => none

/-- A message is created, or was to be created. -/
def Exchange.creates : Exchange → Bool
  | ⟨.createMessage _, _⟩ => true
  | _ => false

/-- A call that was answered while the tools went on, with the outcome of its tool if there is one.
-/
structure HandledCall where
  call : ToolCall
  outcome : Option ToolOutcome

namespace HandledCall

/-- The answer to the call. -/
def result (x : HandledCall) : ToolResult :=
  match x.outcome with
  | none => errorResult x.call (toolUnknown x.call.name)
  | some (.ok response) => resultOf x.call response
  | some (.error failure) => errorResult x.call failure.describe

/-- There is an outcome if the tool is known, and it is no denial. -/
structure Fits (known : String → Bool) (x : HandledCall) : Prop where
  ran : x.outcome.isSome = known x.call.name
  allowed : ∀ tool reason, x.outcome ≠ some (.error (.denied tool reason))

theorem result_ids (x : HandledCall) :
    (x.result.callId, x.result.name) = (x.call.id, x.call.name) := by
  unfold result
  split <;> rfl

end HandledCall

/-- What the tools of some calls are invoked with, if every call is run whose tool is known. -/
def knownInvocations (known : String → Bool) (calls : List ToolCall) : List Invocation :=
  (calls.filter fun c => known c.name).map ToolCall.invocation

/-- How running the tools of some calls can end: the message behind it, the results, what the tools
were invoked with, and the outcomes that they had. -/
inductive ToolsEnd (known : String → Bool) (m : Message) (calls : List ToolCall) (canceled : Prop) :
    Message → List ToolResult → List Invocation → List ToolOutcome → Prop where
  /-- All calls are handled. -/
  | done (log : List HandledCall) (fits : ∀ x ∈ log, x.Fits known)
    (all : calls = log.map (·.call)) :
    ToolsEnd known m calls canceled m (log.map (·.result))
      (knownInvocations known (log.map (·.call))) (log.filterMap (·.outcome))
  /-- A tool is denied behind some calls that are handled. -/
  | denied (log : List HandledCall) (call : ToolCall) (rest : List ToolCall) (now : Timestamp)
    (tool reason : String) (fits : ∀ x ∈ log, x.Fits known)
    (all : calls = log.map (·.call) ++ call :: rest) (ran : known call.name) :
    ToolsEnd known m calls canceled (m.addFinish now .permissionDenied permissionDenied "")
      (log.map (·.result) ++ errorResult call permissionDenied :: canceledResults rest)
      (knownInvocations known (log.map (·.call)) ++ [call.invocation])
      (log.filterMap (·.outcome) ++ [.error (.denied tool reason)])
  /-- The turn is canceled behind some calls that are handled, perhaps while it waits for the next.
  -/
  | canceled (log : List HandledCall) (call : ToolCall) (rest : List ToolCall) (now : Timestamp)
    (invoked : List Invocation) (fits : ∀ x ∈ log, x.Fits known)
    (all : calls = log.map (·.call) ++ call :: rest) (halted : canceled)
    (ran : invoked = [] ∨ known call.name ∧ invoked = [call.invocation]) :
    ToolsEnd known m calls canceled (m.addFinish now .canceled requestCanceled "")
      (log.map (·.result) ++ canceledResults (call :: rest))
      (knownInvocations known (log.map (·.call)) ++ invoked) (log.filterMap (·.outcome))

/-- Where a turn stands while it runs the tools of some calls: its phase, the errand of the tool
that it waits for, what the tools were invoked with, and the outcomes that they had. -/
inductive ToolStand (known : String → Bool) (history : List Message) (m : Message)
    (calls : List ToolCall) (canceled : Prop) :
    TurnPhase → Option Errand → List Invocation → List ToolOutcome → Prop where
  | dispatching (log : List HandledCall) (call : ToolCall) (rest : List ToolCall)
    (fits : ∀ x ∈ log, x.Fits known) (all : calls = log.map (·.call) ++ call :: rest) :
    ToolStand known history m calls canceled
      (.dispatching history m (log.map (·.result)) call rest) none
      (knownInvocations known (log.map (·.call))) (log.filterMap (·.outcome))
  | awaiting (log : List HandledCall) (call : ToolCall) (rest : List ToolCall) (e : Errand)
    (fits : ∀ x ∈ log, x.Fits known) (all : calls = log.map (·.call) ++ call :: rest)
    (ran : known call.name) (invocation : e.call = call.invocation) :
    ToolStand known history m calls canceled
      (.awaiting history m (log.map (·.result)) call rest) (some e)
      (knownInvocations known (log.map (·.call)) ++ if e.Begins then [] else [call.invocation])
      (log.filterMap (·.outcome))
  | stopping {m' : Message} {results : List ToolResult} {invoked : List Invocation}
    {outcomes : List ToolOutcome}
    (ends : ToolsEnd known m calls canceled m' results invoked outcomes) :
    ToolStand known history m calls canceled (.stopping history m' results) none invoked outcomes
  | recording {m' : Message} {results : List ToolResult} {invoked : List Invocation}
    {outcomes : List ToolOutcome}
    (ends : ToolsEnd known m calls canceled m' results invoked outcomes) :
    ToolStand known history m calls canceled (.recording history m' results) none invoked outcomes

/-- How many exchanges of a turn there are at most until it has run its tools. -/
def TurnPhase.toolSteps : TurnPhase → Nat
  | .dispatching _ _ _ _ rest => 2 * rest.length + 3
  | .awaiting _ _ _ _ rest => 2 * rest.length + 2
  | .stopping _ _ _ => 1
  | _ => 0

variable {known : String → Bool} {history : List Message} {m m' : Message} {calls : List ToolCall}
  {canceled canceled' : Prop} {results : List ToolResult} {invoked : List Invocation}
  {outcomes : List ToolOutcome}

theorem toolSteps_nextCall (history : List Message) (m : Message) (results : List ToolResult)
    (rest : List ToolCall) : (nextCall history m results rest).toolSteps ≤ 2 * rest.length + 1 := by
  cases rest <;> simp [nextCall, TurnPhase.toolSteps]
  omega

theorem knownInvocations_append (known : String → Bool) (calls more : List ToolCall) :
    knownInvocations known (calls ++ more) =
      knownInvocations known calls ++ knownInvocations known more := by
  simp [knownInvocations]

namespace ToolsEnd

/-- **Every call is answered, and in order.** -/
theorem ids (h : ToolsEnd known m calls canceled m' results invoked outcomes) :
    results.map (fun r => (r.callId, r.name)) = calls.map fun c => (c.id, c.name) := by
  have hlog : ∀ log : List HandledCall, (log.map (·.result)).map (fun r => (r.callId, r.name)) =
      (log.map (·.call)).map fun c => (c.id, c.name) := by
    intro log
    rw [List.map_map, List.map_map]
    exact List.map_congr_left fun x _ => x.result_ids
  cases h with
  | done log fits all => rw [all, hlog]
  | denied log call rest now tool reason fits all ran =>
    simp [all, hlog, canceledResults, errorResult, Function.comp_def]
  | canceled log call rest now invoked fits all halted ran =>
    simp [all, hlog, canceledResults, errorResult, Function.comp_def]

theorem mono (h : ToolsEnd known m calls canceled m' results invoked outcomes)
    (hc : canceled → canceled') : ToolsEnd known m calls canceled' m' results invoked outcomes := by
  cases h with
  | done log fits all => exact .done log fits all
  | denied log call rest now tool reason fits all ran =>
    exact .denied log call rest now tool reason fits all ran
  | canceled log call rest now invoked fits all halted ran =>
    exact .canceled log call rest now invoked fits all (hc halted) ran

end ToolsEnd

namespace ToolStand

variable {p : TurnPhase} {errand : Option Errand}

theorem mono (h : ToolStand known history m calls canceled p errand invoked outcomes)
    (hc : canceled → canceled') :
    ToolStand known history m calls canceled' p errand invoked outcomes := by
  cases h with
  | dispatching log call rest fits all => exact .dispatching log call rest fits all
  | awaiting log call rest e fits all ran invocation =>
    exact .awaiting log call rest e fits all ran invocation
  | stopping ends => exact .stopping (ends.mono hc)
  | recording ends => exact .recording (ends.mono hc)

/-- The turn goes on with the next call, if there is one. -/
theorem nextCall {log : List HandledCall} {rest : List ToolCall} (fits : ∀ x ∈ log, x.Fits known)
    (all : calls = log.map (·.call) ++ rest) : ToolStand known history m calls canceled
      (TurnPhase.nextCall history m (log.map (·.result)) rest) none
      (knownInvocations known (log.map (·.call))) (log.filterMap (·.outcome)) := by
  cases rest with
  | nil => exact .recording (.done log fits (by simpa using all))
  | cons call rest => exact .dispatching log call rest fits all

/-- One more call is handled. -/
theorem handled {log : List HandledCall} {call : ToolCall} {rest : List ToolCall}
    {outcome : Option ToolOutcome} (fits : ∀ x ∈ log, x.Fits known)
    (all : calls = log.map (·.call) ++ call :: rest)
    (hcall : HandledCall.Fits known ⟨call, outcome⟩) : ToolStand known history m calls canceled
      (TurnPhase.nextCall history m
        (log.map (·.result) ++ [HandledCall.result ⟨call, outcome⟩]) rest) none
      (knownInvocations known (log.map (·.call)) ++
        if known call.name then [call.invocation] else [])
      (log.filterMap (·.outcome) ++ outcome.toList) := by
  have hfits : ∀ x ∈ log ++ [⟨call, outcome⟩], x.Fits known := fun x hx =>
    (List.mem_append.mp hx).elim (fits x) fun hx => List.mem_singleton.mp hx ▸ hcall
  have h : ToolStand known history m calls canceled _ none _ _ :=
    nextCall hfits (by simpa using all)
  have hinvoked : knownInvocations known [call] =
      if known call.name then [call.invocation] else [] := by
    cases hknown : known call.name <;> simp [knownInvocations, hknown]
  have houtcome :
      ([⟨call, outcome⟩] : List HandledCall).filterMap (·.outcome) = outcome.toList := by
    cases outcome <;> rfl
  rwa [List.map_append, List.map_append, List.filterMap_append, knownInvocations_append,
    List.map_singleton, List.map_singleton, hinvoked, houtcome] at h

/-- The tools have ended, or there are exchanges left. -/
theorem ends_or (h : ToolStand known history m calls canceled p errand invoked outcomes) :
    (∃ m' results, p = .recording history m' results ∧
      ToolsEnd known m calls canceled m' results invoked outcomes) ∨ 0 < p.toolSteps := by
  cases h with
  | recording ends => exact .inl ⟨_, _, rfl, ends⟩
  | _ => exact .inr (by simp [TurnPhase.toolSteps])

/-- The tool that is waited for makes a step: it is invoked if the step is its first. -/
theorem steps {e e' : Errand}
    (h : ToolStand known history m calls canceled p (some e) invoked outcomes)
    (hcall : e'.call = e.call) (hbegun : ¬ e'.Begins) :
    ToolStand known history m calls canceled p (some e')
      (invoked ++ if e.Begins then [e.call] else []) outcomes := by
  cases h with
  | awaiting log call rest e fits all ran invocation =>
    have h : ToolStand known history m calls canceled _ (some e') _ _ :=
      .awaiting log call rest e' fits all ran (hcall.trans invocation)
    rw [if_neg hbegun] at h
    by_cases hbegins : e.Begins
    · rwa [if_pos hbegins, if_pos hbegins, List.append_nil, invocation]
    · rwa [if_neg hbegins, if_neg hbegins, List.append_nil]

end ToolStand

namespace Desk

variable {d : Desk} {i : Nat} {t : TurnTask} {p : TurnPhase}

/-- A tool that ends and is not denied answers its call. -/
theorem resume_ended {setup : TurnSetup} (now : Timestamp) {call : ToolCall} {rest : List ToolCall}
    {outcome : ToolOutcome} (h : ∀ tool reason, outcome ≠ .error (.denied tool reason)) :
    TurnPhase.resume setup now (.awaiting history m results call rest) (ToolEnd.ended outcome) =
      .next (nextCall history m (results ++ [HandledCall.result ⟨call, some outcome⟩]) rest) := by
  cases outcome with
  | ok response => rfl
  | error failure =>
    cases failure with
    | denied tool reason => exact absurd rfl (h tool reason)
    | _ => rfl

/-- **An exchange of a turn that runs its tools.** -/
theorem toolStand_exchange {x : Exchange} (ht : d.turns[i]? = some t)
    (hstage : t.stage = .working p)
    (hknown : ∀ name, known name = (d.tool? t.post name).isSome)
    (h : ToolStand known history m calls (d.isCanceled t.turn.token) p t.errand invoked outcomes)
    (hx : d.exchange? i = some x) (hquiet : x.creates = false) :
    ∃ t' p', (d.move (.step (.turn i))).turns[i]? = some t' ∧ t'.stage = .working p' ∧
      t'.post = t.post ∧ t'.turn = t.turn ∧
      ToolStand known history m calls (d.isCanceled t.turn.token) p' t'.errand invoked
        (outcomes ++ x.outcome?.toList) ∧
      p'.toolSteps < p.toolSteps := by
  obtain ⟨now, reply, t', d', rfl, hanswer, hcard, hbehind⟩ := turn_exchange ht hstage hx
  have hpost : t'.card.post = t.card.post := congrArg TurnTask.post hcard
  have hturn : t'.card.turn = t.card.turn := congrArg TurnTask.turn hcard
  -- Every answer leads to another phase of the tools, and leaves the errand that goes with it.
  suffices hnext : ∃ p' outcome?, p.resume t.setup now reply = .next p' ∧
      Exchange.outcome? ⟨p.request t.setup, reply⟩ = outcome? ∧
      ToolStand known history m calls (d.isCanceled t.turn.token) p' t'.errand invoked
        (outcomes ++ outcome?.toList) ∧ p'.toolSteps < p.toolSteps by
    obtain ⟨p', outcome?, hresume, houtcome, hstand, hsteps⟩ := hnext
    rw [houtcome]
    rcases hbehind with ⟨p'', hp'', hmove⟩ | ⟨outcome, hstop, -⟩
    · obtain rfl := TurnProgress.next.inj (hresume.symm.trans hp'')
      exact ⟨_, p', hmove, rfl, hpost, hturn, hstand, hsteps⟩
    · cases hresume.symm.trans hstop
  generalize herrand : t.errand = errand at h
  cases h with
  | dispatching log call rest fits all =>
    have hsteps := toolSteps_nextCall history m
      (log.map (·.result) ++ [errorResult call (toolUnknown call.name)]) rest
    rcases startTool_answer? hanswer with
      ⟨rfl, hc, he⟩ | ⟨rfl, hnone, he⟩ | ⟨rfl, hsome, e, he, hbegins, hcall⟩
    · have hends : ToolsEnd known m calls (d.isCanceled t.turn.token) _ _ _ _ :=
        .canceled log call rest now [] fits all hc (.inl rfl)
      refine ⟨_, none, rfl, rfl, ?_, by simp [TurnPhase.toolSteps, TurnPhase.stopTools]⟩
      rw [he, herrand, Option.toList_none, List.append_nil]
      rw [List.append_nil] at hends
      exact .stopping hends
    · have hunknown : known call.name = false := by
        rw [hknown, hnone]
        rfl
      have hcall : HandledCall.Fits known ⟨call, none⟩ := ⟨hunknown.symm, fun _ _ h => by cases h⟩
      have hstand : ToolStand known history m calls (d.isCanceled t.turn.token) _ none _ _ :=
        .handled fits all hcall
      refine ⟨_, none, rfl, rfl, ?_, Nat.lt_of_le_of_lt hsteps (by simp [TurnPhase.toolSteps])⟩
      rw [hunknown, if_neg Bool.false_ne_true, List.append_nil] at hstand
      rw [he, herrand]
      exact hstand
    · have hran : known call.name := by rw [hknown, hsome]
      have hstand : ToolStand known history m calls (d.isCanceled t.turn.token) _ (some e) _ _ :=
        .awaiting log call rest e fits all hran hcall
      refine ⟨_, none, rfl, rfl, ?_, by simp [TurnPhase.toolSteps]⟩
      rw [if_pos hbegins, List.append_nil] at hstand
      rw [he, Option.toList_none, List.append_nil]
      exact hstand
  | awaiting log call rest e fits all ran invocation =>
    obtain ⟨hnone, ⟨rfl, hc⟩ | ⟨e', outcome, rfl, he, houtcome⟩⟩ := awaitTool_answer? hanswer
    · have hends : ToolsEnd known m calls (d.isCanceled t.turn.token) _ _ _ _ :=
        .canceled log call rest now (if e.Begins then [] else [call.invocation]) fits all hc (by
          split
          · exact .inl rfl
          · exact .inr ⟨ran, rfl⟩)
      refine ⟨_, none, rfl, rfl, ?_, by simp [TurnPhase.toolSteps, TurnPhase.stopTools]⟩
      rw [hnone, Option.toList_none, List.append_nil]
      exact .stopping hends
    · obtain rfl := Option.some.inj (he.symm.trans herrand)
      have hbegun : ¬ e'.Begins := by
        rintro ⟨body, hbody⟩
        rw [Errand.outcome?, hbody] at houtcome
        cases houtcome
      rw [if_neg hbegun, hnone]
      by_cases hdenied : ∃ tool reason, outcome = .error (.denied tool reason)
      · obtain ⟨tool, reason, rfl⟩ := hdenied
        refine ⟨_, _, rfl, rfl, .stopping ?_, by simp [TurnPhase.toolSteps]⟩
        exact .denied log call rest now tool reason fits all ran
      · have hallowed : ∀ tool reason, outcome ≠ .error (.denied tool reason) :=
          fun tool reason heq => hdenied ⟨tool, reason, heq⟩
        have hcall : HandledCall.Fits known ⟨call, some outcome⟩ :=
          ⟨ran.symm, fun tool reason heq => hallowed tool reason (Option.some.inj heq)⟩
        have hstand : ToolStand known history m calls (d.isCanceled t.turn.token) _ none _ _ :=
          .handled fits all hcall
        have hsteps := toolSteps_nextCall history m
          (log.map (·.result) ++ [HandledCall.result ⟨call, some outcome⟩]) rest
        refine ⟨_, some outcome, resume_ended now hallowed, rfl, ?_, Nat.lt_succ_of_le hsteps⟩
        rwa [if_pos ran] at hstand
  | stopping ends =>
    have he := errand_answer? (fun _ _ h => by cases h) (fun h => by cases h) hanswer
    refine ⟨_, none, rfl, rfl, ?_, Nat.one_pos⟩
    rw [he, herrand, Option.toList_none, List.append_nil]
    exact .recording ends
  | recording ends => cases hquiet

/-- **A move while a turn runs its tools.** -/
theorem toolStand_move (ht : d.turns[i]? = some t) (hstage : t.stage = .working p)
    (hknown : ∀ name, known name = (d.tool? t.post name).isSome)
    (h : ToolStand known history m calls (d.isCanceled t.turn.token) p t.errand invoked outcomes)
    (mv : DeskMove) (hquiet : ∀ x, mv.pick i (d.exchange? i) = some x → x.creates = false) :
    ∃ t' p', (d.move mv).turns[i]? = some t' ∧ t'.stage = .working p' ∧
      t'.post = t.post ∧ t'.turn = t.turn ∧
      ToolStand known history m calls ((d.move mv).isCanceled t.turn.token) p' t'.errand
        (invoked ++ (d.invocation? i mv).toList)
        (outcomes ++ (mv.pick i (d.exchange? i)).toList.filterMap Exchange.outcome?) ∧
      p'.toolSteps + (mv.pick i (d.exchange? i)).toList.length ≤ p.toolSteps := by
  have hlater : d.isCanceled t.turn.token → (d.move mv).isCanceled t.turn.token :=
    (later_move d mv).isCanceled
  by_cases hturn : mv = .step (.turn i)
  · subst hturn
    rw [DeskMove.pick_self] at hquiet ⊢
    have hinvoked : (invoked ++ (d.invocation? i (.step (.turn i))).toList) = invoked :=
      List.append_nil invoked
    rw [hinvoked]
    cases hx : d.exchange? i with
    | none =>
      have hsame := move_of_exchange?_eq_none ht hstage hx
      refine ⟨t, p, by rw [hsame, ht], hstage, rfl, rfl, ?_, Nat.le_refl _⟩
      simpa using h.mono hlater
    | some x =>
      obtain ⟨t', p', ht', hstage', hpost, htoken, hstand, hsteps⟩ :=
        toolStand_exchange ht hstage hknown h hx (hquiet x hx)
      refine ⟨t', p', ht', hstage', hpost, htoken, ?_, hsteps⟩
      have houtcome : [x].filterMap Exchange.outcome? = x.outcome?.toList := by
        cases hx : x.outcome? <;> simp [hx]
      rw [Option.toList_some, houtcome]
      exact hstand.mono hlater
  · rw [DeskMove.pick_of_ne hturn, Option.toList_none, List.filterMap_nil, List.append_nil]
    by_cases htool : mv = .step (.toolOf i)
    · subst htool
      have hinvocation : d.invocation? i (.step (.toolOf i)) =
          t.errand.bind fun e => if e.Begins then some e.call else none := by
        simp [invocation?, errandOf?, ht]
      rw [hinvocation]
      rcases turn_toolOf ht with ⟨hsame, hbegun⟩ | ⟨e, e', he, hcall, hbegun, hmove⟩
      · have hnone : (t.errand.bind fun e => if e.Begins then some e.call else none) = none := by
          cases he : t.errand with
          | none => rfl
          | some e => exact if_neg (hbegun e he)
        refine ⟨t, p, by rw [hsame, ht], hstage, rfl, rfl, ?_, Nat.le_refl _⟩
        rw [hnone, Option.toList_none, List.append_nil]
        exact h.mono hlater
      · rw [he] at h ⊢
        refine ⟨_, p, hmove, hstage, rfl, rfl, ?_, Nat.le_refl _⟩
        have hstand := (h.steps hcall hbegun).mono hlater
        by_cases hbegins : e.Begins
        · rw [if_pos hbegins] at hstand
          rwa [Option.bind_some, if_pos hbegins]
        · rw [if_neg hbegins] at hstand
          rwa [Option.bind_some, if_neg hbegins]
    · have hinvocation : d.invocation? i mv = none := by
        cases mv with
        | step k =>
          cases k with
          | toolOf j => exact if_neg fun hj => htool (by rw [hj])
          | _ => rfl
        | _ => rfl
      refine ⟨t, p, turn_move_of_ne hturn htool ht, hstage, rfl, rfl, ?_, Nat.le_refl _⟩
      rw [hinvocation, Option.toList_none, List.append_nil]
      exact h.mono hlater

/-- **Moves while a turn runs its tools.** -/
theorem toolStand_run (moves : List DeskMove) (ht : d.turns[i]? = some t)
    (hstage : t.stage = .working p) (hknown : ∀ name, known name = (d.tool? t.post name).isSome)
    (h : ToolStand known history m calls (d.isCanceled t.turn.token) p t.errand invoked outcomes)
    (hquiet : (trace i d moves).any Exchange.creates = false) :
    ∃ t' p', (d.run moves).turns[i]? = some t' ∧ t'.stage = .working p' ∧ t'.turn = t.turn ∧
      ToolStand known history m calls ((d.run moves).isCanceled t.turn.token) p' t'.errand
        (invoked ++ invocations i d moves)
        (outcomes ++ (trace i d moves).filterMap Exchange.outcome?) ∧
      p'.toolSteps + (trace i d moves).length ≤ p.toolSteps := by
  induction moves generalizing d t p invoked outcomes with
  | nil => exact ⟨t, p, ht, hstage, rfl, by simpa [trace, invocations] using h, Nat.le_refl _⟩
  | cons mv moves ih =>
    rw [trace, List.any_append, Bool.or_eq_false_iff] at hquiet
    have hnow : ∀ x, mv.pick i (d.exchange? i) = some x → x.creates = false := fun x hx => by
      simpa [hx] using hquiet.1
    obtain ⟨t₁, p₁, ht₁, hstage₁, hpost, hturn, hstand, hsteps⟩ :=
      toolStand_move ht hstage hknown h mv hnow
    have hknown₁ : ∀ name, known name = ((d.move mv).tool? t₁.post name).isSome := fun name => by
      rw [hpost, tool?_move, hknown]
    rw [← hturn] at hstand
    obtain ⟨t', p', ht', hstage', hturn', hstand', hsteps'⟩ :=
      ih ht₁ hstage₁ hknown₁ hstand hquiet.2
    refine ⟨t', p', ht', hstage', hturn'.trans hturn, ?_, ?_⟩
    · rw [hturn] at hstand'
      rw [trace, invocations, List.filterMap_append, ← List.append_assoc, ← List.append_assoc]
      exact hstand'
    · rw [trace, List.length_append]
      omega

/-- A turn that runs its tools waits only while the tool of a call is on its errand. -/
theorem waits_of_toolStand (ht : d.turns[i]? = some t) (hstage : t.stage = .working p)
    (h : ToolStand known history m calls canceled p t.errand invoked outcomes)
    (hwaits : d.exchange? i = none) :
    ¬ d.isCanceled t.turn.token ∧ ∃ e, t.errand = some e ∧ e.outcome? = none := by
  have hanswer : d.answer? t (p.request t.setup) = none := by
    simpa [exchange?, ht, hstage] using hwaits
  have hrunning : ¬ d.isCanceled t.turn.token := fun hc => by
    have hsome := isSome_answer? hc (p.request t.setup)
    rw [hanswer] at hsome
    cases hsome
  refine ⟨hrunning, ?_⟩
  generalize herrand : t.errand = errand at h
  cases h with
  | dispatching log call rest =>
    simp [TurnPhase.request, answer?, hrunning] at hanswer
  | awaiting log call rest e =>
    refine ⟨e, rfl, ?_⟩
    cases houtcome : e.outcome? with
    | none => rfl
    | some outcome =>
      simp [TurnPhase.request, answer?, awaitTool?, hrunning, herrand, houtcome] at hanswer
  | stopping | recording => cases hanswer

section

variable {roster : Roster} {sources : List Source} {store : WatchedStore} {bench : Workbench}
  {before : List DeskMove}

/-- **A turn answers every call once, and in order.** Take a turn that is about to run the tools of
some calls, at any moment of any run, and let anything happen until it creates a message. When it
has come to record the results, there is one for each call, in order, and the tools have ended in
one of three ways: all calls are handled, or one is denied, or the turn is canceled before or while
a tool is waited for. Until then it makes at most two exchanges for each call and one more, and if
it has to wait, then for a tool that has not ended. -/
theorem tools_run (hd : d = (openOn roster sources store bench).run before)
    (ht : d.turns[i]? = some t) (hstage : t.stage = .working (nextCall history m [] calls))
    (moves : List DeskMove) (hquiet : (trace i d moves).any Exchange.creates = false) :
    ∃ t', (d.run moves).turns[i]? = some t' ∧
      (∀ history' m' results, t'.stage = .working (.recording history' m' results) →
        results.map (fun r => (r.callId, r.name)) = calls.map (fun c => (c.id, c.name)) ∧
        ToolsEnd (fun name => (d.tool? t.post name).isSome) m calls
          ((d.run moves).isCanceled t.turn.token) m' results (invocations i d moves)
          ((trace i d moves).filterMap Exchange.outcome?)) ∧
      ((∃ m' results, t'.stage = .working (.recording history m' results)) ∨
        (trace i d moves).length < 2 * calls.length + 1 ∧
          ((d.run moves).exchange? i = none → ¬ (d.run moves).isCanceled t.turn.token ∧
            ∃ e, t'.errand = some e ∧ e.outcome? = none)) := by
  have hattended : d.Attended := hd ▸ (attended_openOn roster sources store bench).run before
  have hnone : t.errand = none := by
    refine Option.not_isSome_iff_eq_none.mp fun hsome => ?_
    obtain ⟨p, hp, hawaits⟩ := hattended i t ht hsome
    rw [hstage] at hp
    cases calls <;> cases hp <;> cases hawaits
  have hstand : ToolStand (fun name => (d.tool? t.post name).isSome) history m calls
      (d.isCanceled t.turn.token) (nextCall history m [] calls) t.errand [] [] := by
    rw [hnone]
    exact ToolStand.nextCall (List.forall_mem_nil _) rfl
  obtain ⟨t', p, ht', hstage', hturn, hstand', hsteps⟩ :=
    toolStand_run moves ht hstage (fun _ => rfl) hstand hquiet
  have hmost := Nat.le_trans hsteps (toolSteps_nextCall history m [] calls)
  rw [List.nil_append, List.nil_append] at hstand'
  refine ⟨t', ht', fun history' m' results hrecording => ?_, ?_⟩
  · rcases hstand'.ends_or with ⟨m'', results', rfl, hends⟩ | hpos
    · cases hstage'.symm.trans hrecording
      exact ⟨hends.ids, hends⟩
    · cases hstage'.symm.trans hrecording
      cases hpos
  · rcases hstand'.ends_or with ⟨m', results, rfl, -⟩ | hpos
    · exact .inl ⟨m', results, hstage'⟩
    · refine .inr ⟨by omega, fun hwaits => ?_⟩
      rw [← hturn]
      exact waits_of_toolStand ht' hstage' hstand' hwaits

end

/-- An agent with a tool that answers and one that is denied, and a turn of its provider that calls
for the first, for a tool that is not there, for the second, and for the first again. -/
def guardedAgent : Agent :=
  ⟨"a", "a", 0, default, .ofList
    [(⟨"echo", "", [], []⟩, .immediate fun _ => .answered (.ok (.text "hi"))),
    (⟨"rm", "", [], []⟩, .immediate fun _ => .answered (.error (.denied "rm" "no")))], none, 1000⟩

@[inherit_doc guardedAgent]
def guardedCalls : List ToolCall :=
  [⟨"c", "echo", "", true⟩, ⟨"c", "ls", "", true⟩, ⟨"c2", "rm", "", true⟩, ⟨"c", "echo", "", true⟩]

@[inherit_doc guardedAgent]
def guardedDesk : Desk := (openOn ⟨[guardedAgent], [], 4⟩
  [.script (.ofTurns [.stream none [.complete ⟨"", guardedCalls, .zero, .toolUse⟩] false])]
  (.ofStore (.memory .empty) []) ⟨default, default, default⟩).run
    ([.forkToken none, .submit 0 0 "s" "hello" []] ++ List.replicate 11 (.step (.turn 0)))

@[inherit_doc guardedAgent]
def guardedMoves : List DeskMove :=
  [.turn 0, .toolOf 0, .turn 0, .turn 0, .turn 0, .toolOf 0, .turn 0, .turn 0].map .step

/-- Four calls, the third of which is denied. -/
theorem tools_run_denied : ∃ (history : List Message) (m m' : Message) (results : List ToolResult),
    (guardedDesk.turns[0]?).map (·.stage) = some (.working (nextCall history m [] guardedCalls)) ∧
    ((guardedDesk.run guardedMoves).turns[0]?).map (·.stage) =
      some (.working (.recording history m' results)) ∧
    results.map (·.content) = ["hi", "Tool not found: ls", "Permission denied",
      "Tool execution canceled by user"] ∧
    results.map (fun r => (r.callId, r.name)) = guardedCalls.map (fun c => (c.id, c.name)) ∧
    m'.finishReason? = some .permissionDenied ∧
    invocations 0 guardedDesk guardedMoves = [⟨"c", "echo", ""⟩, ⟨"c2", "rm", ""⟩] := by
  have hd : guardedDesk = _ := rfl
  obtain ⟨t', ht', hends, -⟩ := tools_run hd (i := 0) rfl
    (rfl : _ = TurnStage.working (nextCall _ _ [] guardedCalls)) guardedMoves (by decide +kernel)
  have hstage := congrArg (Option.map (·.stage)) ht'
  obtain ⟨hids, -⟩ := hends _ _ _ (Option.some.inj hstage.symm)
  exact ⟨_, _, _, _, rfl, rfl, by decide +kernel, hids, by decide +kernel, by decide +kernel⟩

end Desk

end AgentDesk
