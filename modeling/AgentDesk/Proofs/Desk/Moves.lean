import AgentDesk.Desk.Step
import AgentDesk.Proofs.Desk.Trackers
import AgentDesk.Proofs.Turn.Halting
/-!
# The moves of a desk

Whatever happens on a desk is a move: somebody asks something of it, or a task makes a step. Here is
all that a move can do to the trackers and to the turns. A turn changes by its own steps only; any
other move uses at most one tracker once, and may start a turn.

## Main definitions

* `DeskMove`, `Desk.move`, `Desk.run`.
* `Desk.exchange?` — what a turn asks next, and the answer.
* `Desk.Aside` — trackers and turns stay as they are.
* `Desk.Serves` — what a move does that is no step of a turn.
* `Desk.Delegates` — what a step of an errand does.
* `Desk.Advances` — what a step of a turn does.
-/

namespace AgentDesk

/-- What can happen on a desk. -/
inductive DeskMove where
  | submit (post : PostId) (parent : TokenId) (session prompt : String) (files : List Binary)
  | cancel (post : PostId) (session : String)
  | clearQueue (post : PostId) (session : String)
  | cancelToken (token : TokenId)
  | forkToken (parent : Option TokenId)
  | release (gate : String)
  | ask (session : String) (body : ToolBody) (call : Invocation)
  | step (task : TaskId)

/-- What a turn sees of itself in its tracker: all but its stream and the errand of its tool. -/
def TurnTask.card (t : TurnTask) : TurnTask := { t with stream := none, errand := none }

/-- The stage of a turn behind a step of its course. -/
def TurnProgress.stage : TurnProgress → TurnStage
  | .next p => .working p
  | .stop outcome => .unregistering outcome

/-- What a request does to the tracker of its turn. -/
def TurnRequest.track (session : String) (generation : Nat) (t : Tracker) : TurnRequest → Tracker
  | .drainQueue => (t.drain session).2
  | .finishOrTake => (t.finishOrTake session generation).2
  | _ => t

/-- The prompts in an answer are those that the tracker gives. -/
def TurnRequest.Prompted (session : String) (generation : Nat) (t : Option Tracker) :
    (r : TurnRequest) → r.Reply → Prop
  | .drainQueue, (reply : List String) =>
    reply = ((t.map fun t => (t.drain session).1).getD [])
  | .finishOrTake, (reply : List String) =>
    reply = ((t.map fun t => (t.finishOrTake session generation).1).getD [])
  | _, _ => True

namespace Desk

/-- The desk behind a move. A task that has to wait, and a prompt for a post that does not exist,
move nothing. -/
def move (d : Desk) : DeskMove → Desk
  | .submit post parent session prompt files =>
    match d.submit post parent session prompt files with
    | some (_, d) => d
    | none => d
  | .cancel post session => d.cancel post session
  | .clearQueue post session => d.clearQueue post session
  | .cancelToken token => d.cancelToken token
  | .forkToken parent => (d.forkToken parent).2
  | .release gate => d.release gate
  | .ask session body call => d.ask session body call
  | .step task => (d.step? task).getD d

/-- The desk behind some moves. -/
def run (d : Desk) (moves : List DeskMove) : Desk := moves.foldl move d

@[simp] theorem run_nil (d : Desk) : d.run [] = d := rfl

@[simp] theorem run_cons (d : Desk) (m : DeskMove) (moves : List DeskMove) :
    d.run (m :: moves) = (d.move m).run moves := rfl

theorem run_append (d : Desk) (before behind : List DeskMove) :
    d.run (before ++ behind) = (d.run before).run behind := List.foldl_append

/-- The trackers of the posts. -/
def trackers (d : Desk) : List Tracker := d.posts.map (·.tracker)

/-- The turns as their trackers see them. -/
def cards (d : Desk) : List TurnTask := d.turns.map TurnTask.card

/-- The exchange in the next step of a turn, if it is at work and need not wait. -/
def exchange? (d : Desk) (i : Nat) : Option Exchange :=
  match d.turns[i]? with
  | none => none
  | some t =>
    match t.stage with
    | .working p => (d.answer? t (p.request t.setup)).map fun r => ⟨p.request t.setup, r.1⟩
    | _ => none

/-! ## What leaves trackers and turns alone -/

/-- The desk goes on, but its trackers and turns stay as they are; what was canceled stays
canceled. -/
structure Aside (d d' : Desk) : Prop where
  trackers : d'.trackers = d.trackers
  cards : d'.cards = d.cards
  tokens : d.tokens.Later d'.tokens

variable {d d' d'' : Desk}

theorem Aside.refl (d : Desk) : Aside d d := ⟨rfl, rfl, .refl _⟩

theorem Aside.trans (h : Aside d d') (h' : Aside d' d'') : Aside d d'' :=
  ⟨h'.trackers.trans h.trackers, h'.cards.trans h.cards, h.tokens.trans h'.tokens⟩

theorem aside_enterGate (d : Desk) (gate : String) : Aside d (d.enterGate gate).2 :=
  ⟨rfl, rfl, .refl _⟩

theorem aside_forkToken (d : Desk) (parent : Option TokenId) : Aside d (d.forkToken parent).2 :=
  ⟨rfl, rfl, TokenTree.later_fork d.tokens parent⟩

theorem aside_cancelToken (d : Desk) (token : TokenId) : Aside d (d.cancelToken token) :=
  ⟨rfl, rfl, TokenTree.later_cancel d.tokens token⟩

theorem aside_openStream (d : Desk) (s : PreparedStream) : Aside d (d.openStream s).2 := by
  unfold openStream
  split
  · exact .refl d
  · exact d.aside_enterGate _

theorem aside_serve (d : Desk) (t : TurnTask) (request : ModelRequest) :
    Aside d (d.serve t request).2.2 ∧ (d.serve t request).2.1.card = t.card := by
  unfold serve
  dsimp only
  generalize Source.serve _ request d.bench.network = served
  obtain ⟨opening, prepared, source, network⟩ := served
  cases prepared with
  | none => exact ⟨⟨rfl, rfl, .refl _⟩, rfl⟩
  | some s =>
    refine ⟨Aside.trans ?_ (aside_openStream _ s), rfl⟩
    exact ⟨rfl, rfl, .refl _⟩

theorem aside_sendTool (d : Desk) (t : TurnTask) (messageId : String) (call : ToolCall) :
    Aside d (d.sendTool t messageId call).2.2 ∧
      (d.sendTool t messageId call).2.1.card = t.card := by
  unfold sendTool
  split
  · exact ⟨.refl d, rfl⟩
  · exact ⟨d.aside_forkToken _, rfl⟩

/-- What is next on a stream changes nothing but the stream. -/
theorem eq_of_receive? {t t' : TurnTask} {next : NextEvent} (h : d.receive? t = some (next, t')) :
    t' = { t with stream := t'.stream } := by
  unfold receive? at h
  split at h
  · cases h
    rfl
  · -- Whether the stream is held is a case of its own, but makes no difference to what is next.
    dsimp only at h
    split at h
    all_goals
      split at h
      · cases h
      · split at h
        · cases h
          rfl
        · split at h <;> cases h
          rfl

theorem card_receive? {t t' : TurnTask} {next : NextEvent} (h : d.receive? t = some (next, t')) :
    t'.card = t.card := by
  rw [eq_of_receive? h]
  rfl

theorem aside_beginErrand (d : Desk) (e : Errand) (body : ToolBody) :
    Aside d (d.beginErrand e body).2 := by
  cases body with
  | gated gate response => exact d.aside_enterGate gate
  | immediate | patient | bench | delegate => exact ⟨rfl, rfl, .refl _⟩

theorem aside_abandon (d : Desk) (e : Errand) : Aside d (d.abandon e) := by
  have hcancel := d.aside_cancelToken e.token
  unfold abandon
  split
  · exact hcancel.trans ⟨rfl, rfl, .refl _⟩
  · exact hcancel

theorem trackers_changePost {f : Post → Post} {g : Tracker → Tracker}
    (h : ∀ p, (f p).tracker = g p.tracker) (d : Desk) (post : PostId) :
    (d.changePost post f).trackers = d.trackers.modify post g := by
  refine List.ext_getElem? fun k => ?_
  simp only [trackers, changePost, List.getElem?_map, List.getElem?_modify]
  cases d.posts[k]? with
  | none => simp
  | some p =>
    by_cases hk : post = k <;> simp [hk, h]

/-- A post whose tracker is replaced by what a call makes of it. -/
theorem trackers_changePost_of_some {post : PostId} {p : Post} (hp : d.posts[post]? = some p)
    (f : Tracker → Tracker) :
    (d.changePost post fun q => { q with tracker := f p.tracker }).trackers =
      d.trackers.modify post f := by
  have hconst := d.trackers_changePost (f := fun q => { q with tracker := f p.tracker })
    (g := fun _ => f p.tracker) (fun _ => rfl) post
  refine hconst.trans (List.ext_getElem? fun k => ?_)
  rw [List.getElem?_modify, List.getElem?_modify]
  by_cases hk : post = k
  · subst hk
    simp [trackers, hp]
  · simp [hk]

theorem aside_publish (d : Desk) (post : PostId) (outcome : TurnOutcome) :
    Aside d (d.publish post outcome) := by
  refine ⟨?_, rfl, .refl _⟩
  have h := d.trackers_changePost (g := id)
    (f := fun p => { p with broker := (p.broker.publish .created outcome).2 }) (fun _ => rfl) post
  exact h.trans (List.modify_id ..)

/-! ## Moves that are no step of a given turn -/

/-- What a move can do that is no step of a turn: each tracker makes at most one move, and no turn
changes, but one may start. -/
structure Serves (d d' : Desk) : Prop where
  trackers : ∀ (k : PostId) (t' : Tracker), d'.trackers[k]? = some t' →
    ∃ t, d.trackers[k]? = some t ∧ Tracker.Moved t t' ∧ (t.Orderly → t'.Orderly)
  cards : d'.cards = d.cards ∨ ∃ task : TurnTask, d'.cards = d.cards ++ [task] ∧
    task.stage = .working .listing ∧ ∀ t' : Tracker,
      d'.trackers[task.post]? = some t' → task.turn.generation ≤ t'.lastGeneration
  tokens : d.tokens.Later d'.tokens

/-- A tracker is the one that was changed, or it is as before. -/
theorem tracker_cases {post : PostId} {f : Tracker → Tracker}
    (htrackers : d'.trackers = d.trackers.modify post f) {k : PostId} {t' : Tracker}
    (ht' : d'.trackers[k]? = some t') :
    ∃ t, d.trackers[k]? = some t ∧ (k = post ∧ t' = f t ∨ k ≠ post ∧ t' = t) := by
  rw [htrackers, List.getElem?_modify, Option.map_eq_map, Option.map_eq_some_iff] at ht'
  obtain ⟨t, ht, rfl⟩ := ht'
  refine ⟨t, ht, ?_⟩
  split
  · rename_i hk
    exact .inl ⟨hk.symm, rfl⟩
  · rename_i hk
    exact .inr ⟨Ne.symm hk, rfl⟩

/-- A turn is the one that changed, or it is as before. -/
theorem card_set_cases {i j : Nat} {t t' : TurnTask} (hcards : d'.cards = d.cards.set i t)
    (ht' : d'.cards[j]? = some t') : j ≠ i ∧ d.cards[j]? = some t' ∨ j = i ∧ t' = t := by
  rw [hcards, List.getElem?_set] at ht'
  split at ht'
  · rename_i hij
    split at ht' <;> cases ht'
    exact .inr ⟨hij.symm, rfl⟩
  · rename_i hij
    exact .inl ⟨Ne.symm hij, ht'⟩

/-- A turn is as before, or it is the one that was added. -/
theorem card_append_cases {j : Nat} {t t' : TurnTask} (hcards : d'.cards = d.cards ++ [t])
    (ht' : d'.cards[j]? = some t') : d.cards[j]? = some t' ∨ j = d.cards.length ∧ t' = t := by
  rw [hcards, List.getElem?_append] at ht'
  split at ht'
  · exact .inl ht'
  · have hj := (List.getElem?_eq_some_iff.mp ht').1
    simp only [List.length_singleton] at hj
    exact .inr ⟨by omega, List.mem_singleton.mp (List.mem_of_getElem? ht')⟩

namespace Serves

theorem ofAside (h : Aside d d') : Serves d d' := by
  refine ⟨fun k t' ht' => ⟨t', ?_, .refl t', fun ho => ho⟩, .inl h.cards, h.tokens⟩
  rwa [h.trackers] at ht'

theorem trans_aside (h : Serves d d') (h' : Aside d' d'') : Serves d d'' := by
  refine ⟨?_, ?_, h.tokens.trans h'.tokens⟩
  · rw [h'.trackers]
    exact h.trackers
  · rw [h'.cards, h'.trackers]
    exact h.cards

/-- The tracker of one post makes a move. -/
theorem ofModify {post : PostId} {f : Tracker → Tracker}
    (htrackers : d'.trackers = d.trackers.modify post f)
    (hmoved : ∀ t, Tracker.Moved t (f t) ∧ (t.Orderly → (f t).Orderly)) {k : PostId}
    {t' : Tracker}
    (ht' : d'.trackers[k]? = some t') :
    ∃ t, d.trackers[k]? = some t ∧ Tracker.Moved t t' ∧ (t.Orderly → t'.Orderly) := by
  obtain ⟨t, ht, ⟨rfl, rfl⟩ | ⟨-, rfl⟩⟩ := tracker_cases htrackers ht'
  · exact ⟨t, ht, hmoved t⟩
  · exact ⟨t', ht, .refl t', fun ho => ho⟩

end Serves

/-- **How a prompt is submitted**: the tracker of the post admits it, and a turn that the tracker
starts is new on the desk. -/
theorem submit_cases {post : PostId} {parent : TokenId} {session prompt : String}
    {files : List Binary} {r : Submission}
    (h : d.submit post parent session prompt files = some (r, d')) :
    ∃ k, d.trackers[post]? = some k ∧
      d'.trackers = d.trackers.modify post
        (fun k => (k.submit d.tokens session parent prompt).2.1) ∧
      d'.tokens = (k.submit d.tokens session parent prompt).2.2 ∧
      (d'.cards = d.cards ∨ ∃ turn setup, setup.sessionId = session ∧
        (k.submit d.tokens session parent prompt).1 = .started turn ∧
        d'.cards = d.cards ++ [⟨post, turn, setup, .working .listing, none, none⟩]) := by
  obtain ⟨p, hp, h⟩ := Option.map_eq_some_iff.mp h
  refine ⟨p.tracker, by simp [trackers, List.getElem?_map, hp], ?_⟩
  have htrackers := trackers_changePost_of_some hp
    fun k => (k.submit d.tokens session parent prompt).2.1
  generalize p.tracker.submit d.tokens session parent prompt = answer at *
  obtain ⟨admission, tracker, tokens⟩ := answer
  cases admission with
  | queued =>
    cases h
    exact ⟨htrackers, rfl, .inl rfl⟩
  | started turn =>
    cases h
    exact ⟨htrackers, rfl,
      .inr ⟨turn, setupFor p.agent session prompt files, rfl, rfl, List.map_append⟩⟩

theorem serves_submit {post : PostId} {parent : TokenId} {session prompt : String}
    {files : List Binary} {r : Submission}
    (h : d.submit post parent session prompt files = some (r, d')) : Serves d d' := by
  obtain ⟨k, hk, htrackers, htokens, hcards⟩ := submit_cases h
  refine ⟨fun j t' => Serves.ofModify htrackers fun t =>
      ⟨t.moved_submit d.tokens session parent prompt,
        fun ho => ho.submit d.tokens session parent prompt⟩, ?_,
    htokens ▸ k.later_submit d.tokens session parent prompt⟩
  refine hcards.imp_right fun ⟨turn, setup, _, hstarted, hnew⟩ => ⟨_, hnew, rfl, fun t' ht' => ?_⟩
  obtain rfl : (k.submit d.tokens session parent prompt).2.1 = t' := by
    simpa [htrackers, hk] using ht'
  exact Nat.le_of_eq (k.generation_submit d.tokens session parent prompt turn hstarted)

theorem trackers_cancel (d : Desk) (post : PostId) (session : String) :
    (d.cancel post session).trackers =
      d.trackers.modify post fun k => (k.cancel d.tokens session).1 := by
  unfold cancel
  cases hp : d.posts[post]? with
  | none =>
    have hlen : d.trackers.length ≤ post := by simpa [trackers] using hp
    exact (List.modify_eq_self hlen).symm
  | some p => exact trackers_changePost_of_some hp fun k => (k.cancel d.tokens session).1

theorem serves_cancel (d : Desk) (post : PostId) (session : String) :
    Serves d (d.cancel post session) := by
  refine ⟨fun k t' => Serves.ofModify (d.trackers_cancel post session) fun t =>
    ⟨t.moved_cancel d.tokens session, fun ho => ho.cancel d.tokens session⟩, .inl ?_, ?_⟩
  · unfold cancel
    split <;> rfl
  · unfold cancel
    split
    · exact .refl _
    · rename_i p _
      exact p.tracker.later_cancelTurn d.tokens session

theorem trackers_clearQueue (d : Desk) (post : PostId) (session : String) :
    (d.clearQueue post session).trackers = d.trackers.modify post (·.clearQueue session) :=
  d.trackers_changePost (f := fun p => { p with tracker := p.tracker.clearQueue session })
    (fun _ => rfl) post

theorem serves_clearQueue (d : Desk) (post : PostId) (session : String) :
    Serves d (d.clearQueue post session) :=
  ⟨fun _ _ => Serves.ofModify (d.trackers_clearQueue post session) fun t =>
    ⟨t.moved_clearQueue session, fun ho => ho.clearQueue session⟩, .inl rfl, .refl _⟩

/-! ## Steps of errands -/

/-- What a step of an errand does to trackers and turns: nothing, or it submits a prompt. -/
inductive Delegates (d d' : Desk) : Prop where
  | aside (same : Aside d d')
  | submits (post : PostId) (parent : TokenId) (session prompt : String) (files : List Binary)
    (r : Submission) (d'' : Desk)
    (submitted : d.submit post parent session prompt files = some (r, d'')) (rest : Aside d'' d')

theorem Delegates.trans_aside (h : Delegates d d') (h' : Aside d' d'') : Delegates d d'' := by
  cases h with
  | aside same => exact .aside (same.trans h')
  | submits post parent session prompt files r d₁ submitted rest =>
    exact .submits post parent session prompt files r d₁ submitted (rest.trans h')

theorem Delegates.serves (h : Delegates d d') : Serves d d' := by
  cases h with
  | aside same => exact .ofAside same
  | submits post parent session prompt files r d₁ submitted rest =>
    exact (serves_submit submitted).trans_aside rest

/-- The answer to a request of a delegation. -/
theorem delegates_answerDelegation {e : Errand} {peer : PostId} {r : DelegationRequest}
    {reply : r.Reply} (h : d.answerDelegation? e peer r = some (reply, d')) : Delegates d d' := by
  cases r with
  | readSession id =>
    cases h
    exact .aside ⟨rfl, rfl, .refl _⟩
  | openTask callId parent title =>
    cases h
    exact .aside ⟨rfl, rfl, .refl _⟩
  | submit session prompt =>
    simp only [answerDelegation?] at h
    split at h
    · rename_i hsubmit
      cases h
      exact .submits peer e.token session prompt [] _ d' hsubmit (.refl _)
    · rename_i hsubmit
      cases h
      exact .submits peer e.token session prompt [] _ d' hsubmit (.refl _)
    · cases h
  | awaitTurn turn =>
    simp only [answerDelegation?] at h
    split at h
    · cases h
      exact .aside (.refl d)
    · cases h
  | saveSession session =>
    cases h
    exact .aside ⟨rfl, rfl, .refl _⟩

/-- The next step of an errand. -/
theorem delegates_stepErrand {e e' : Errand} (h : d.stepErrand? e = some (e', d')) :
    Delegates d d' := by
  obtain ⟨⟨stage, d''⟩, h, heq⟩ := Option.map_eq_some_iff.mp h
  cases heq
  unfold nextStage? at h
  split at h
  · rename_i body _
    obtain rfl : ((d.noteStart e).beginErrand e body).2 = d' :=
      congrArg Prod.snd (Option.some.inj h)
    refine .aside (Aside.trans ?_ (aside_beginErrand ..))
    exact ⟨rfl, rfl, .refl _⟩
  · split at h <;> cases h
    exact .aside (.refl d)
  · split at h <;> cases h
    exact .aside (.refl d)
  · unfold stepDelegation? at h
    split at h
    · cases h
    · rename_i hanswer
      split at h <;> cases h <;> exact delegates_answerDelegation hanswer
  · cases h

/-- The tracker of a turn does not see its errand. -/
theorem map_card_modify {f : TurnTask → TurnTask} (h : ∀ t, (f t).card = t.card)
    (turns : List TurnTask) (i : Nat) :
    (turns.modify i f).map TurnTask.card = turns.map TurnTask.card := by
  refine List.ext_getElem? fun k => ?_
  simp only [List.getElem?_map, List.getElem?_modify]
  cases turns[k]? with
  | none => simp
  | some t => by_cases hk : i = k <;> simp [hk, h]

/-- The next step of an errand, whether a turn waits for it or not. -/
theorem delegates_step {task : TaskId} (htask : ∀ i, task ≠ .turn i)
    (h : d.step? task = some d') : Delegates d d' := by
  cases task with
  | turn i => exact absurd rfl (htask i)
  | toolOf i =>
    simp only [step?, stepToolOf?] at h
    split at h
    · cases h
    · split at h
      · cases h
      · obtain ⟨⟨e', d₁⟩, hstep, rfl⟩ := Option.map_eq_some_iff.mp h
        refine (delegates_stepErrand hstep).trans_aside ⟨rfl, ?_, .refl _⟩
        exact map_card_modify (f := fun t => { t with errand := some e' }) (fun _ => rfl) d₁.turns i
  | errand i =>
    simp only [step?, stepOwnErrand?] at h
    split at h
    · cases h
    · obtain ⟨⟨e', d₁⟩, hstep, rfl⟩ := Option.map_eq_some_iff.mp h
      exact (delegates_stepErrand hstep).trans_aside ⟨rfl, rfl, .refl _⟩

/-- A move of an errand, or nothing if it has to wait. -/
theorem delegates_move {task : TaskId} (htask : ∀ i, task ≠ .turn i) :
    Delegates d (d.move (.step task)) := by
  simp only [move]
  cases hstep : d.step? task with
  | none => exact .aside (.refl d)
  | some d' => exact delegates_step htask hstep

/-- **A move that is no step of a turn.** -/
theorem serves_move (d : Desk) {m : DeskMove} (hm : ∀ i, m ≠ .step (.turn i)) :
    Serves d (d.move m) := by
  cases m with
  | submit post parent session prompt files =>
    simp only [move]
    split
    · rename_i hsubmit
      exact serves_submit hsubmit
    · exact .ofAside (.refl d)
  | cancel post session => exact d.serves_cancel post session
  | clearQueue post session => exact d.serves_clearQueue post session
  | cancelToken token => exact .ofAside (d.aside_cancelToken token)
  | forkToken parent => exact .ofAside (d.aside_forkToken parent)
  | release gate => exact .ofAside ⟨rfl, rfl, .refl _⟩
  | ask session body call => exact .ofAside ⟨rfl, rfl, d.tokens.later_fork none⟩
  | step task => exact (delegates_move fun i hi => hm i (hi ▸ rfl)).serves

/-! ## The steps of a turn -/

/-- How a request of a turn is answered: only the tracker of the turn is used, and only for prompts;
a turn that was canceled learns of it; and a message is created from its draft. -/
structure Answers (d : Desk) (t : TurnTask) (r : TurnRequest) (reply : r.Reply) (t' : TurnTask)
    (d' : Desk) : Prop where
  card : t'.card = t.card
  trackers : d'.trackers = d.trackers.modify t.post fun k =>
    r.track t.setup.sessionId t.turn.generation k
  cards : d'.cards = d.cards
  tokens : d.tokens.Later d'.tokens
  halted : d.isCanceled t.turn.token → r.Halted reply
  honest : r.Honest reply
  prompted : r.Prompted t.setup.sessionId t.turn.generation d.trackers[t.post]? reply

/-- A created message is made from its draft, in a store of either kind. -/
theorem perform_createMessage (d : Desk) (id session : String) (draft : Draft) {m : Message}
    (h : (d.perform .createMessage fun now => Store.createMessage now id session draft).1 = .ok m) :
    m.role = draft.role ∧ m.parts = draft.parts := by
  simp only [perform, WatchedStore.perform] at h
  split at h
  · cases h
  · cases hstore : d.store.store with
    | memory content =>
      rw [hstore] at h
      cases h
      exact ⟨rfl, rfl⟩
    | database content =>
      rw [hstore] at h
      cases h
      exact ⟨rfl, rfl⟩

theorem useTracker_eq (d : Desk) (post : PostId) (act : Tracker → List String × Tracker) :
    (d.useTracker post act).1 = ((d.trackers[post]?.map fun t => (act t).1).getD []) ∧
      (d.useTracker post act).2.trackers = d.trackers.modify post (fun t => (act t).2) ∧
      (d.useTracker post act).2.cards = d.cards ∧
      (d.useTracker post act).2.tokens = d.tokens := by
  unfold useTracker
  cases hp : d.posts[post]? with
  | none =>
    have htracker : d.trackers[post]? = none := by simp [trackers, List.getElem?_map, hp]
    refine ⟨by simp [htracker], ?_, rfl, rfl⟩
    exact (List.modify_eq_self (List.getElem?_eq_none_iff.mp htracker)).symm
  | some p =>
    have htracker : d.trackers[post]? = some p.tracker := by
      simp [trackers, List.getElem?_map, hp]
    exact ⟨by simp [htracker], trackers_changePost_of_some hp fun t => (act t).2, rfl, rfl⟩

/-- An answer that uses no tracker. -/
theorem Answers.ofAside {t t' : TurnTask} {r : TurnRequest} {reply : r.Reply} (ha : Aside d d')
    (hcard : t'.card = t.card)
    (htrack : ∀ k, r.track t.setup.sessionId t.turn.generation k = k)
    (hhalted : d.isCanceled t.turn.token → r.Halted reply) (hhonest : r.Honest reply)
    (hprompted : r.Prompted t.setup.sessionId t.turn.generation d.trackers[t.post]? reply) :
    Answers d t r reply t' d' := by
  refine ⟨hcard, ?_, ha.cards, ha.tokens, hhalted, hhonest, hprompted⟩
  rw [ha.trackers, funext htrack]
  exact (List.modify_id ..).symm

/-- **How a turn is answered.** -/
theorem answers_answer? {t t' : TurnTask} {r : TurnRequest} {reply : r.Reply}
    (h : d.answer? t r = some (reply, t', d')) : Answers d t r reply t' d' := by
  cases r with
  | listMessages | readSession | saveSession | updateMessage =>
    cases h
    exact .ofAside ⟨rfl, rfl, .refl _⟩ rfl (fun _ => rfl) (fun _ => trivial) trivial trivial
  | createMessage draft =>
    cases h
    exact .ofAside ⟨rfl, rfl, .refl _⟩ rfl (fun _ => rfl) (fun _ => trivial)
      (fun m hm => d.perform_createMessage _ _ draft hm) trivial
  | isCanceled =>
    cases h
    exact .ofAside (.refl d) rfl (fun _ => rfl) (fun hc => hc) trivial trivial
  | openStream request =>
    simp only [answer?] at h
    split at h
    · cases h
      exact .ofAside (.refl d) rfl (fun _ => rfl) (fun _ => rfl) trivial trivial
    · rename_i hc
      obtain ⟨haside, hcard⟩ := d.aside_serve t request
      rw [Option.some.inj h] at haside hcard
      exact .ofAside haside hcard (fun _ => rfl) (fun h => absurd h hc) trivial trivial
  | nextEvent =>
    simp only [answer?] at h
    split at h
    · cases h
      exact .ofAside (.refl d) rfl (fun _ => rfl) (fun _ => rfl) trivial trivial
    · rename_i hc
      split at h <;> cases h
      rename_i next hreceive
      exact .ofAside (.refl d) (card_receive? hreceive) (fun _ => rfl) (fun h => absurd h hc)
        trivial trivial
  | startTool messageId call =>
    simp only [answer?] at h
    split at h
    · cases h
      exact .ofAside (.refl d) rfl (fun _ => rfl) (fun _ => rfl) trivial trivial
    · rename_i hc
      obtain ⟨haside, hcard⟩ := d.aside_sendTool t messageId call
      rw [Option.some.inj h] at haside hcard
      exact .ofAside haside hcard (fun _ => rfl) (fun h => absurd h hc) trivial trivial
  | awaitTool =>
    simp only [answer?, awaitTool?] at h
    split at h
    · cases h
      refine .ofAside ?_ rfl (fun _ => rfl) (fun _ => rfl) trivial trivial
      split
      · exact d.aside_abandon _
      · exact .refl d
    · rename_i hc
      split at h <;> cases h
      exact .ofAside (.refl d) rfl (fun _ => rfl) (fun h => absurd h hc) trivial trivial
  | drainQueue =>
    cases h
    obtain ⟨hprompts, htrackers, hcards, htokens⟩ :=
      d.useTracker_eq t.post (·.drain t.setup.sessionId)
    exact ⟨rfl, htrackers, hcards, htokens ▸ .refl _, fun _ => trivial, trivial, hprompts⟩
  | finishOrTake =>
    cases h
    obtain ⟨hprompts, htrackers, hcards, htokens⟩ :=
      d.useTracker_eq t.post (·.finishOrTake t.setup.sessionId t.turn.generation)
    exact ⟨rfl, htrackers, hcards, htokens ▸ .refl _, fun _ => trivial, trivial, hprompts⟩

/-- A turn that was canceled need not wait. -/
theorem isSome_answer? {t : TurnTask} (hc : d.isCanceled t.turn.token) (r : TurnRequest) :
    (d.answer? t r).isSome := by
  cases r <;> simp only [answer?, awaitTool?, hc, if_true] <;> rfl

/-- What a step of a turn does, told of its card. -/
inductive Advances (d : Desk) (i : Nat) (d' : Desk) : Prop where
  /-- There is no step: the turn is over, or it has to wait and was not canceled. -/
  | rests (same : d' = d) (exchange : d.exchange? i = none)
    (waits : ∀ t : TurnTask, d.cards[i]? = some t → (∃ outcome, t.stage = .ended outcome) ∨
      (∃ p, t.stage = .working p) ∧ ¬ d.isCanceled t.turn.token)
  /-- The answer to a request leads on. -/
  | works (t : TurnTask) (p : TurnPhase) (now : Timestamp) (reply : (p.request t.setup).Reply)
    (card : d.cards[i]? = some t) (stage : t.stage = .working p)
    (exchange : d.exchange? i = some ⟨p.request t.setup, reply⟩)
    (cards : d'.cards = d.cards.set i { t with stage := (p.resume t.setup now reply).stage })
    (trackers : d'.trackers = d.trackers.modify t.post fun k =>
      (p.request t.setup).track t.setup.sessionId t.turn.generation k)
    (tokens : d.tokens.Later d'.tokens)
    (halted : d.isCanceled t.turn.token → (p.request t.setup).Halted reply)
    (honest : (p.request t.setup).Honest reply)
    (prompted : (p.request t.setup).Prompted t.setup.sessionId t.turn.generation
      d.trackers[t.post]? reply)
  /-- The turn leaves its tracker. -/
  | leaves (t : TurnTask) (outcome : TurnOutcome) (card : d.cards[i]? = some t)
    (stage : t.stage = .unregistering outcome) (exchange : d.exchange? i = none)
    (cards : d'.cards = d.cards.set i { t with stage := .delivering outcome })
    (trackers : d'.trackers = d.trackers.modify t.post fun k =>
      (k.finish t.setup.sessionId t.turn.generation).2)
    (tokens : d.tokens.Later d'.tokens)
  /-- The turn delivers its outcome. -/
  | delivers (t : TurnTask) (outcome : TurnOutcome) (card : d.cards[i]? = some t)
    (stage : t.stage = .delivering outcome) (exchange : d.exchange? i = none)
    (cards : d'.cards = d.cards.set i { t with stage := .ended outcome })
    (trackers : d'.trackers = d.trackers) (tokens : d.tokens.Later d'.tokens)

theorem cards_setTurn (d : Desk) (i : Nat) (t : TurnTask) :
    (d.setTurn i t).cards = d.cards.set i t.card := List.map_set

theorem move_turn {i : Nat} {t : TurnTask} (ht : d.turns[i]? = some t) :
    d.move (.step (.turn i)) = ((d.stepTask? t).map fun (t, d) => d.setTurn i t).getD d := by
  simp [move, step?, stepTurn?, ht]

/-- **A step of a turn.** -/
theorem advances_move (d : Desk) (i : Nat) : Advances d i (d.move (.step (.turn i))) := by
  cases ht : d.turns[i]? with
  | none =>
    refine .rests (by simp [move, step?, stepTurn?, ht]) (by simp [exchange?, ht]) ?_
    intro t hcard
    simp [cards, List.getElem?_map, ht] at hcard
  | some t =>
    rw [move_turn ht]
    have hcard : d.cards[i]? = some t.card := by simp [cards, List.getElem?_map, ht]
    cases hstage : t.stage with
    | working p =>
      cases hanswer : d.answer? t (p.request t.setup) with
      | none =>
        have hstep : d.stepTask? t = none := by simp [stepTask?, hstage, stepCourse?, hanswer]
        refine .rests (by simp [hstep]) (by simp [exchange?, ht, hstage, hanswer]) ?_
        intro t' ht'
        obtain rfl := Option.some.inj (hcard.symm.trans ht')
        refine .inr ⟨⟨p, hstage⟩, fun hc => ?_⟩
        have hsome : (d.answer? t (p.request t.setup)).isSome := isSome_answer? (t := t) hc _
        simp [hanswer] at hsome
      | some r =>
        obtain ⟨reply, t', d'⟩ := r
        have h := answers_answer? hanswer
        have hexchange : d.exchange? i = some ⟨p.request t.setup, reply⟩ := by
          simp [exchange?, ht, hstage, hanswer]
        have hcards : ∀ t'' : TurnTask,
            t''.card = { t'.card with stage := (p.resume t.setup d'.now reply).stage } →
            (d'.tick.setTurn i t'').cards = d.cards.set i
              { t.card with stage := (p.resume t.setup d'.now reply).stage } := by
          intro t'' heq
          have hsame : d'.tick.cards = d.cards := h.cards
          rw [cards_setTurn, heq, h.card, hsame]
        cases hprogress : p.resume t.setup d'.now reply with
        | next p' =>
          have hstep : d.stepTask? t = some ({ t' with stage := .working p' }, d'.tick) := by
            simp [stepTask?, hstage, stepCourse?, hanswer, hprogress]
          rw [hstep]
          refine .works t.card p d'.now reply hcard hstage hexchange (hcards _ ?_) h.trackers
            h.tokens h.halted h.honest h.prompted
          rw [hprogress]
          rfl
        | stop outcome =>
          have hstep : d.stepTask? t = some ({ t' with
              stage := .unregistering outcome, stream := none, errand := none }, d'.tick) := by
            simp [stepTask?, hstage, stepCourse?, hanswer, hprogress]
          rw [hstep]
          refine .works t.card p d'.now reply hcard hstage hexchange (hcards _ ?_) h.trackers
            h.tokens h.halted h.honest h.prompted
          rw [hprogress]
          rfl
    | unregistering outcome =>
      have hstep :
          d.stepTask? t = some ({ t with stage := .delivering outcome }, d.unregister t) := by
        simp [stepTask?, hstage]
      rw [hstep]
      refine .leaves t.card outcome hcard hstage (by simp [exchange?, ht, hstage])
        (cards_setTurn ..) ?_ (d.tokens.later_cancel t.turn.token)
      exact d.trackers_changePost
        (g := fun k => (k.finish t.setup.sessionId t.turn.generation).2) (fun _ => rfl) t.post
    | delivering outcome =>
      have hstep : d.stepTask? t = some ({ t with stage := .ended outcome },
          d.publish t.post outcome) := by
        simp [stepTask?, hstage]
      rw [hstep]
      have haside := d.aside_publish t.post outcome
      exact .delivers t.card outcome hcard hstage (by simp [exchange?, ht, hstage])
        (cards_setTurn ..) haside.trackers haside.tokens
    | ended outcome =>
      have hstep : d.stepTask? t = none := by simp [stepTask?, hstage]
      refine .rests (by simp [hstep]) (by simp [exchange?, ht, hstage]) ?_
      intro t' ht'
      obtain rfl := Option.some.inj (hcard.symm.trans ht')
      exact .inl ⟨outcome, hstage⟩

end Desk

end AgentDesk
