import AgentDesk.Proofs.Desk.Cancellation
import AgentDesk.Proofs.Desk.Errands
import Mathlib.Data.List.Basic
/-!
# The tools that turns wait for

The agents of a desk stay the same, and so do their tools. A turn sends off the tool of one call at
a time and waits for it; in no other phase is a tool on its errand for it. The tool is invoked with
the first step of its errand, and never again.

## Main definitions

* `Desk.tool?` — the tool of a name at a post.
* `Desk.Attended` — a turn whose tool is on its errand waits for it.
* `Desk.invocations` — what the tool of a turn is invoked with in some moves.
-/

namespace AgentDesk

/-- What the tool of a call is invoked with. -/
def ToolCall.invocation (c : ToolCall) : Invocation := ⟨c.id, c.name, c.input⟩

/-- The turn waits for a tool. -/
def TurnPhase.AwaitsTool : TurnPhase → Prop
  | .awaiting _ _ _ _ _ => True
  | _ => False

namespace Desk

variable {d d' : Desk} {i : Nat} {t t' : TurnTask} {e e' : Errand} {p : TurnPhase}

/-- The tool of a name at a post. -/
def tool? (d : Desk) (post : PostId) (name : String) : Option ToolBody :=
  (d.roster.agents[post]?).bind fun a => a.tools.get? name

/-- A turn whose tool is on its errand waits for it. -/
def Attended (d : Desk) : Prop := ∀ (i : Nat) (t : TurnTask), d.turns[i]? = some t →
  t.errand.isSome → ∃ p, t.stage = .working p ∧ p.AwaitsTool

/-- What the tool of a turn is invoked with in a move: the errand of the tool makes its first step.
-/
def invocation? (d : Desk) (i : Nat) : DeskMove → Option Invocation
  | .step (.toolOf j) =>
    if j = i then (d.errandOf? (.toolOf i)).bind fun e => if e.Begins then some e.call else none
    else none
  | _ => none

/-- What the tool of a turn is invoked with in some moves. -/
def invocations (i : Nat) : Desk → List DeskMove → List Invocation
  | _, [] => []
  | d, m :: moves => (d.invocation? i m).toList ++ invocations i (d.move m) moves

/-! ## The roster -/

/-- Whatever changes a post leaves its agent alone. -/
theorem roster_of_modify {post : PostId} {f : Post → Post}
    (hposts : d'.posts = d.posts.modify post f)
    (hdirectory : d'.directory = d.directory) (hlimit : d'.maxDepth = d.maxDepth)
    (hagent : ∀ p, (f p).agent = p.agent) : d'.roster = d.roster := by
  have hagents : (d.posts.modify post f).map (·.agent) = d.posts.map (·.agent) := by
    refine List.ext_getElem? fun k => ?_
    simp only [List.getElem?_map, List.getElem?_modify]
    cases d.posts[k]? with
    | none => simp
    | some p => by_cases hk : post = k <;> simp [hk, hagent]
  rw [roster, roster, hposts, hagents, hdirectory, hlimit]

theorem roster_serve (d : Desk) (t : TurnTask) (request : ModelRequest) :
    (d.serve t request).2.2.roster = d.roster := by
  unfold serve
  dsimp only
  generalize Source.serve _ request d.bench.network = served
  obtain ⟨opening, prepared, source, network⟩ := served
  cases prepared with
  | none => rfl
  | some s =>
    dsimp only
    unfold openStream
    split <;> rfl

theorem roster_useTracker (d : Desk) (post : PostId) (act : Tracker → List String × Tracker) :
    (d.useTracker post act).2.roster = d.roster := by
  unfold useTracker
  split
  · rfl
  · exact roster_of_modify rfl rfl rfl fun _ => rfl

theorem roster_answer? {r : TurnRequest} {reply : r.Reply}
    (h : d.answer? t r = some (reply, t', d')) : d'.roster = d.roster := by
  cases r with
  | listMessages | readSession | saveSession | createMessage | updateMessage | isCanceled =>
    cases h
    rfl
  | openStream request =>
    simp only [answer?] at h
    split at h
    · cases h
      rfl
    · rw [← d.roster_serve t request, Option.some.inj h]
  | nextEvent =>
    simp only [answer?] at h
    split at h
    · cases h
      rfl
    · split at h <;> cases h
      rfl
  | startTool messageId call =>
    simp only [answer?, sendTool] at h
    split at h
    · cases h
      rfl
    · split at h <;> cases h <;> rfl
  | awaitTool =>
    simp only [answer?, awaitTool?] at h
    split at h
    · cases h
      split
      · unfold abandon
        split <;> rfl
      · rfl
    · split at h <;> cases h
      rfl
  | drainQueue =>
    cases h
    exact d.roster_useTracker t.post (·.drain t.setup.sessionId)
  | finishOrTake =>
    cases h
    exact d.roster_useTracker t.post (·.finishOrTake t.setup.sessionId t.turn.generation)

theorem roster_stepTask? (h : d.stepTask? t = some (t', d')) : d'.roster = d.roster := by
  unfold stepTask? at h
  split at h
  · unfold stepCourse? at h
    split at h
    · cases h
    · rename_i hanswer
      have hroster := roster_answer? hanswer
      split at h <;> cases h <;> exact hroster
  · cases h
    exact roster_of_modify rfl rfl rfl fun _ => rfl
  · cases h
    exact roster_of_modify rfl rfl rfl fun _ => rfl
  · cases h

theorem roster_submit {post : PostId} {parent : TokenId} {session prompt : String}
    {files : List Binary} {r : Submission}
    (h : d.submit post parent session prompt files = some (r, d')) : d'.roster = d.roster := by
  obtain ⟨p, -, h⟩ := Option.map_eq_some_iff.mp h
  generalize p.tracker.submit d.tokens session parent prompt = answer at h
  obtain ⟨admission, tracker, tokens⟩ := answer
  cases admission <;> cases h <;> exact roster_of_modify rfl rfl rfl fun _ => rfl

theorem roster_stepErrand? (h : d.stepErrand? e = some (e', d')) : d'.roster = d.roster := by
  obtain ⟨stage, -, hgoes⟩ := goes_stepErrand? h
  cases hgoes with
  | begins body => cases body <;> rfl
  | ends => rfl
  | delegates peer setup p reply d' _ hanswer =>
    generalize p.request setup = r at reply hanswer
    cases r with
    | readSession | openTask | saveSession =>
      cases hanswer
      rfl
    | submit session prompt =>
      simp only [answerDelegation?] at hanswer
      split at hanswer
      · rename_i hsubmit
        cases hanswer
        exact roster_submit hsubmit
      · rename_i hsubmit
        cases hanswer
        exact roster_submit hsubmit
      · cases hanswer
    | awaitTurn turn =>
      simp only [answerDelegation?] at hanswer
      split at hanswer <;> cases hanswer
      rfl

theorem roster_cancel (d : Desk) (post : PostId) (session : String) :
    (d.cancel post session).roster = d.roster := by
  unfold cancel
  split
  · rfl
  · exact roster_of_modify rfl rfl rfl fun _ => rfl

/-- **The agents of a desk stay the same**, whatever happens. -/
theorem roster_move (d : Desk) (m : DeskMove) : (d.move m).roster = d.roster := by
  cases m with
  | submit post parent session prompt files =>
    simp only [move]
    split
    · rename_i hsubmit
      exact roster_submit hsubmit
    · rfl
  | cancel post session => exact d.roster_cancel post session
  | clearQueue post session => exact roster_of_modify rfl rfl rfl fun _ => rfl
  | cancelToken | forkToken | release | ask => rfl
  | step k =>
    cases k with
    | turn i =>
      cases hi : d.turns[i]? with
      | none => simp [move, step?, stepTurn?, hi]
      | some t =>
        rw [move_turn hi]
        cases hstep : d.stepTask? t with
        | none => rfl
        | some r =>
          have hroster : r.2.roster = d.roster := roster_stepTask? hstep
          exact hroster
    | toolOf i =>
      simp only [move, step?, stepToolOf?]
      split
      · rfl
      · split
        · rfl
        · rename_i e _
          cases hstep : d.stepErrand? e with
          | none => rfl
          | some r =>
            have hroster : r.2.roster = d.roster := roster_stepErrand? hstep
            exact hroster
    | errand i =>
      simp only [move, step?, stepOwnErrand?]
      split
      · rfl
      · rename_i e _
        cases hstep : d.stepErrand? e with
        | none => rfl
        | some r =>
          have hroster : r.2.roster = d.roster := roster_stepErrand? hstep
          exact hroster

theorem tool?_move (d : Desk) (m : DeskMove) (post : PostId) (name : String) :
    (d.move m).tool? post name = d.tool? post name := by
  rw [tool?, roster_move]
  rfl

/-! ## What an answer does to the tool of a turn -/

/-- Only two requests have to do with tools. -/
theorem errand_answer? {r : TurnRequest} {reply : r.Reply}
    (hstart : ∀ messageId call, r ≠ .startTool messageId call) (hawait : r ≠ .awaitTool)
    (h : d.answer? t r = some (reply, t', d')) : t'.errand = t.errand := by
  cases r with
  | startTool messageId call => exact absurd rfl (hstart messageId call)
  | awaitTool => exact absurd rfl hawait
  | openStream request =>
    simp only [answer?] at h
    split at h
    · cases h
      rfl
    · have herrand := (d.spares_serve t request).2.2
      rwa [Option.some.inj h] at herrand
  | nextEvent =>
    simp only [answer?] at h
    split at h
    · cases h
      rfl
    · split at h <;> cases h
      rename_i hreceive
      rw [eq_of_receive? hreceive]
  | _ =>
    cases h
    rfl

/-- **How a tool is sent off**: not at all if the turn was canceled or there is no tool of that
name. -/
theorem startTool_answer? {messageId : String} {call : ToolCall} {reply : ToolStart}
    (h : d.answer? t (.startTool messageId call) = some (reply, t', d')) :
    (reply = .canceled ∧ d.isCanceled t.turn.token ∧ t'.errand = t.errand) ∨
    (reply = .unknown ∧ d.tool? t.post call.name = none ∧ t'.errand = t.errand) ∨
    (reply = .started ∧ (d.tool? t.post call.name).isSome ∧
      ∃ e, t'.errand = some e ∧ e.Begins ∧ e.call = call.invocation) := by
  have htool : ((d.posts[t.post]?).bind fun p => p.agent.tools.get? call.name) =
      d.tool? t.post call.name := by
    rw [tool?, roster, List.getElem?_map, Option.bind_map]
    rfl
  simp only [answer?, sendTool, htool] at h
  split at h
  · rename_i hcanceled
    cases h
    exact .inl ⟨rfl, hcanceled, rfl⟩
  · cases hbody : d.tool? t.post call.name with
    | none =>
      rw [hbody] at h
      cases h
      exact .inr (.inl ⟨rfl, rfl, rfl⟩)
    | some body =>
      rw [hbody] at h
      cases h
      exact .inr (.inr ⟨rfl, rfl, _, rfl, ⟨body, rfl⟩, rfl⟩)

/-- **How waiting for a tool ends**: the turn was canceled, or the errand has ended. -/
theorem awaitTool_answer? {reply : ToolEnd}
    (h : d.answer? t .awaitTool = some (reply, t', d')) : t'.errand = none ∧
      ((reply = .canceled ∧ d.isCanceled t.turn.token) ∨
        ∃ e outcome, reply = .ended outcome ∧ t.errand = some e ∧ e.outcome? = some outcome) := by
  simp only [answer?, awaitTool?] at h
  split at h
  · rename_i hcanceled
    cases h
    exact ⟨rfl, .inl ⟨rfl, hcanceled⟩⟩
  · split at h <;> cases h
    rename_i outcome houtcome
    obtain ⟨e, he, houtcome⟩ := Option.bind_eq_some_iff.mp houtcome
    exact ⟨rfl, .inr ⟨e, outcome, rfl, he, houtcome⟩⟩

/-! ## Steps of errands -/

theorem stepErrand?_of_begins (d : Desk) (h : e.Begins) : (d.stepErrand? e).isSome := by
  obtain ⟨body, hbody⟩ := h
  simp [stepErrand?, nextStage?, hbody]

/-- An errand begins once, and its call stays the same. -/
theorem not_begins_of_stepErrand? (h : d.stepErrand? e = some (e', d')) :
    e'.call = e.call ∧ ¬ e'.Begins := by
  obtain ⟨stage, rfl, hgoes⟩ := goes_stepErrand? h
  refine ⟨rfl, fun ⟨body', hbody'⟩ => ?_⟩
  have hstage : stage = .begun body' := hbody'
  cases hgoes with
  | begins body hbody =>
    cases body with
    | delegate peer peerId =>
      simp only [beginErrand, beginDelegation] at hstage
      split at hstage
      · cases hstage
      · split at hstage <;> cases hstage
    | _ => cases hstage
  | ends => cases hstage
  | delegates peer setup p reply =>
    cases hprogress : p.resume setup reply <;> rw [hprogress] at hstage <;> cases hstage

/-! ## The turn in a place -/

theorem Spares.turn_eq (h : Spares d d') (ht : d.turns[i]? = some t) : d'.turns[i]? = some t := by
  rcases h.turns with hturns | ⟨t', hturns, -⟩
  · rw [hturns, ht]
  · rw [hturns, List.getElem?_append_left (List.getElem?_eq_some_iff.mp ht).1, ht]

/-- **A turn changes by its own steps and by those of its tool**; a turn that is new has no tool on
an errand. -/
theorem turns_move (d : Desk) (m : DeskMove) : ∃ d', Spares d d' ∧
    ((d.move m).turns = d'.turns ∨
      ∃ j t, (m = .step (.turn j) ∨ m = .step (.toolOf j)) ∧ j < d.turns.length ∧
        (d.move m).turns = d'.turns.set j t) := by
  cases m with
  | submit post parent session prompt files =>
    simp only [move]
    split
    · rename_i hsubmit
      exact ⟨_, spares_submit hsubmit, .inl rfl⟩
    · exact ⟨d, .refl d, .inl rfl⟩
  | cancel post session => exact ⟨_, d.spares_cancel post session, .inl rfl⟩
  | clearQueue | cancelToken | forkToken | release | ask => exact ⟨d, .refl d, .inl rfl⟩
  | step k =>
    cases k with
    | turn j =>
      cases hj : d.turns[j]? with
      | none => exact ⟨d, .refl d, .inl (by simp [move, step?, stepTurn?, hj])⟩
      | some t =>
        rw [move_turn hj]
        cases hstep : d.stepTask? t with
        | none => exact ⟨d, .refl d, .inl rfl⟩
        | some r =>
          obtain ⟨hspares, -, -⟩ := spares_stepTask? hstep
          exact ⟨r.2, hspares, .inr ⟨j, r.1, .inl rfl, (List.getElem?_eq_some_iff.mp hj).1, rfl⟩⟩
    | toolOf j =>
      simp only [move, step?, stepToolOf?]
      split
      · exact ⟨d, .refl d, .inl rfl⟩
      · rename_i t hj
        split
        · exact ⟨d, .refl d, .inl rfl⟩
        · rename_i e _
          cases hstep : d.stepErrand? e with
          | none => exact ⟨d, .refl d, .inl rfl⟩
          | some r =>
            have hspares := spares_stepErrand? hstep
            refine ⟨r.2, hspares, .inr ⟨j, { t with errand := some r.1 }, .inr rfl,
              (List.getElem?_eq_some_iff.mp hj).1, ?_⟩⟩
            show r.2.turns.modify j _ = _
            rw [List.modify_eq_set_getElem?, hspares.turn_eq hj]
            rfl
    | errand j =>
      simp only [move, step?, stepOwnErrand?]
      split
      · exact ⟨d, .refl d, .inl rfl⟩
      · rename_i e _
        cases hstep : d.stepErrand? e with
        | none => exact ⟨d, .refl d, .inl rfl⟩
        | some r => exact ⟨r.2, spares_stepErrand? hstep, .inl rfl⟩

theorem turn_move_of_ne {m : DeskMove} (hturn : m ≠ .step (.turn i)) (htool : m ≠ .step (.toolOf i))
    (ht : d.turns[i]? = some t) : (d.move m).turns[i]? = some t := by
  obtain ⟨d', hspares, heq | ⟨j, t', hm, -, heq⟩⟩ := d.turns_move m <;> rw [heq]
  · exact hspares.turn_eq ht
  · have hne : j ≠ i := by
      rintro rfl
      rcases hm with hm | hm
      · exact hturn hm
      · exact htool hm
    rw [List.getElem?_set_ne hne]
    exact hspares.turn_eq ht

/-- A turn that was not there before has no tool on an errand. -/
theorem errand_of_new {m : DeskMove} (hnone : d.turns[i]? = none)
    (ht : (d.move m).turns[i]? = some t) : t.errand = none := by
  have hlen := List.getElem?_eq_none_iff.mp hnone
  obtain ⟨d', hspares, heq⟩ := d.turns_move m
  have ht' : d'.turns[i]? = some t := by
    rcases heq with heq | ⟨j, t', -, hj, heq⟩
    · rwa [heq] at ht
    · rwa [heq, List.getElem?_set_ne (by omega)] at ht
  rcases hspares.turns with hturns | ⟨new, hturns, hnew⟩
  · rw [hturns, hnone] at ht'
    cases ht'
  · rw [hturns, List.getElem?_append_right hlen] at ht'
    obtain rfl := List.mem_singleton.mp (List.mem_of_getElem? ht')
    exact hnew

/-- A step of the tool of a turn, if its errand need not wait. -/
theorem turn_toolOf (ht : d.turns[i]? = some t) :
    (d.move (.step (.toolOf i)) = d ∧ ∀ e, t.errand = some e → ¬ e.Begins) ∨
    ∃ e e', t.errand = some e ∧ e'.call = e.call ∧ ¬ e'.Begins ∧
      (d.move (.step (.toolOf i))).turns[i]? = some { t with errand := some e' } := by
  cases he : t.errand with
  | none =>
    have herrand : d.errandOf? (.toolOf i) = none := by simp [errandOf?, ht, he]
    exact .inl ⟨move_of_errandOf?_eq_none (fun _ h => by cases h) herrand, fun _ h => by cases h⟩
  | some e =>
    have herrand : d.errandOf? (.toolOf i) = some e := by simp [errandOf?, ht, he]
    cases hstep : d.stepErrand? e with
    | none =>
      refine .inl ⟨move_of_stepErrand?_eq_none herrand hstep, fun e' he' hbegins => ?_⟩
      have hsome := d.stepErrand?_of_begins hbegins
      rw [← Option.some.inj he', hstep] at hsome
      cases hsome
    | some r =>
      obtain ⟨e', d'⟩ := r
      obtain ⟨hcall, hbegun⟩ := not_begins_of_stepErrand? hstep
      refine .inr ⟨e, e', rfl, hcall, hbegun, ?_⟩
      simp [move, step?, stepToolOf?, ht, he, hstep, (spares_stepErrand? hstep).turn_eq ht]

/-- A turn at work that exchanges nothing stays as it is. -/
theorem move_of_exchange?_eq_none (ht : d.turns[i]? = some t) (hstage : t.stage = .working p)
    (h : d.exchange? i = none) : d.move (.step (.turn i)) = d := by
  have hanswer : d.answer? t (p.request t.setup) = none := by simpa [exchange?, ht, hstage] using h
  rw [move_turn ht]
  simp [stepTask?, hstage, stepCourse?, hanswer]

/-- **A step of a turn at work**, with the answer that it gets. -/
theorem turn_exchange {x : Exchange} (ht : d.turns[i]? = some t) (hstage : t.stage = .working p)
    (h : d.exchange? i = some x) : ∃ now reply t' d', x = ⟨p.request t.setup, reply⟩ ∧
      d.answer? t (p.request t.setup) = some (reply, t', d') ∧ t'.card = t.card ∧
      ((∃ p', p.resume t.setup now reply = .next p' ∧
          (d.move (.step (.turn i))).turns[i]? = some { t' with stage := .working p' }) ∨
        ∃ outcome, p.resume t.setup now reply = .stop outcome ∧
          (d.move (.step (.turn i))).turns[i]? =
            some { t' with stage := .unregistering outcome, stream := none, errand := none }) := by
  simp only [exchange?, ht, hstage] at h
  obtain ⟨⟨reply, t', d'⟩, hanswer, rfl⟩ := Option.map_eq_some_iff.mp h
  have hlt := (List.getElem?_eq_some_iff.mp ht).1
  have hturns := (spares_answer? hanswer).2.1
  refine ⟨d'.now, reply, t', d', rfl, hanswer, (answers_answer? hanswer).card, ?_⟩
  rw [move_turn ht]
  simp only [stepTask?, hstage, stepCourse?, hanswer]
  cases hprogress : p.resume t.setup d'.now reply with
  | next p' => exact .inl ⟨p', rfl, by simp [setTurn, tick, hturns, hlt]⟩
  | stop outcome => exact .inr ⟨outcome, rfl, by simp [setTurn, tick, hturns, hlt]⟩

/-- What the tool of a turn is invoked with is written down as a start. -/
theorem started_of_invocation? {m : DeskMove} {c : Invocation} (h : d.invocation? i m = some c) :
    ∃ session, (d.move m).started = d.started ++ [⟨session, c.name, c.id⟩] := by
  unfold invocation? at h
  split at h
  · rename_i j
    split at h
    · rename_i hj
      subst hj
      obtain ⟨e, he, h⟩ := Option.bind_eq_some_iff.mp h
      split at h
      · rename_i hbegins
        cases h
        obtain ⟨t, ht, herrand⟩ := Option.bind_eq_some_iff.mp he
        obtain ⟨body, hbody⟩ := hbegins
        refine ⟨e.session, ?_⟩
        simp only [move, step?, stepToolOf?, ht, herrand, stepErrand?, nextStage?, hbody]
        cases body <;> rfl
      · cases h
    · cases h
  · cases h

/-! ## A tool on its errand is waited for -/

theorem attended_openOn (roster : Roster) (sources : List Source) (store : WatchedStore)
    (bench : Workbench) : (openOn roster sources store bench).Attended := by
  intro i t ht
  cases ht

/-- A step of a turn sends off a tool to wait for it, or leaves no tool on its errand. -/
theorem Attended.step (h : d.Attended) (ht : d.turns[i]? = some t)
    (ht' : (d.move (.step (.turn i))).turns[i]? = some t') (hsome : t'.errand.isSome) :
    ∃ p, t'.stage = .working p ∧ p.AwaitsTool := by
  have hsame : d.move (.step (.turn i)) = d → ∃ p, t'.stage = .working p ∧ p.AwaitsTool :=
    fun heq => h i t' (heq ▸ ht') hsome
  cases hstage : t.stage with
  | working p =>
    cases hx : d.exchange? i with
    | none => exact hsame (move_of_exchange?_eq_none ht hstage hx)
    | some x =>
      obtain ⟨now, reply, t'', d', -, hanswer, -, ⟨p', hnext, hturn⟩ | ⟨outcome, -, hturn⟩⟩ :=
        turn_exchange ht hstage hx
      · obtain rfl := Option.some.inj (hturn.symm.trans ht')
        refine ⟨p', rfl, ?_⟩
        have hsome : t''.errand.isSome := hsome
        have hwaits := h i t ht
        rw [hstage] at hwaits
        cases p with
        | dispatching history m results call rest =>
          rcases startTool_answer? hanswer with ⟨-, -, herrand⟩ | ⟨-, -, herrand⟩ | ⟨rfl, -⟩
          · obtain ⟨q, hq, hawaits⟩ := hwaits (herrand ▸ hsome)
            cases hq
            cases hawaits
          · obtain ⟨q, hq, hawaits⟩ := hwaits (herrand ▸ hsome)
            cases hq
            cases hawaits
          · cases hnext
            trivial
        | awaiting history m results call rest =>
          rw [(awaitTool_answer? hanswer).1] at hsome
          cases hsome
        | _ =>
          have herrand := errand_answer? (fun _ _ h => by cases h) (fun h => by cases h) hanswer
          obtain ⟨q, hq, hawaits⟩ := hwaits (herrand ▸ hsome)
          cases hq
          cases hawaits
      · obtain rfl := Option.some.inj (hturn.symm.trans ht')
        cases hsome
  | unregistering outcome | delivering outcome =>
    have hlt := (List.getElem?_eq_some_iff.mp ht).1
    have herrand : t'.errand = t.errand := by
      rw [move_turn ht] at ht'
      simp only [stepTask?, hstage, Option.map_some, Option.getD_some, setTurn] at ht'
      rw [List.getElem?_set_self (by exact hlt)] at ht'
      rw [← Option.some.inj ht']
    obtain ⟨q, hq, -⟩ := h i t ht (herrand ▸ hsome)
    cases hstage.symm.trans hq
  | ended outcome =>
    refine hsame ?_
    rw [move_turn ht]
    simp [stepTask?, hstage]

theorem Attended.move (h : d.Attended) (m : DeskMove) : (d.move m).Attended := by
  intro i t' ht' hsome
  cases ht : d.turns[i]? with
  | none =>
    rw [errand_of_new ht ht'] at hsome
    cases hsome
  | some t =>
    by_cases hturn : m = .step (.turn i)
    · subst hturn
      exact h.step ht ht' hsome
    · by_cases htool : m = .step (.toolOf i)
      · subst htool
        rcases turn_toolOf ht with ⟨heq, -⟩ | ⟨e, e', he, -, -, hturn⟩
        · rw [heq] at ht'
          exact h i t' ht' hsome
        · obtain rfl := Option.some.inj (hturn.symm.trans ht')
          exact h i t ht (by rw [he]; rfl)
      · obtain rfl := Option.some.inj ((turn_move_of_ne hturn htool ht).symm.trans ht')
        exact h i t ht hsome

theorem Attended.run (h : d.Attended) (moves : List DeskMove) : (d.run moves).Attended := by
  induction moves generalizing d with
  | nil => exact h
  | cons m moves ih => exact ih (h.move m)

end Desk

end AgentDesk
