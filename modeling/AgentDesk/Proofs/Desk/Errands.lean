import AgentDesk.Proofs.Desk.Moves
/-!
# Where errands stand

An errand is on its way in one of two kinds of places: a turn waits for it, or somebody outside
asked for it. It changes by its own steps only. A turn that does not wait any longer gives its
errand up, and an errand that takes a place begins there.

## Main definitions

* `DelegationProgress.stage` — where the answer to a delegation leads its errand.
* `Errand.Goes` — all that a step of an errand can be.
* `Desk.errandOf?` — the errand in a place.
* `Desk.Spares` — limit, errands and turns stay as they are.
-/

namespace AgentDesk

/-- An errand that has not made a step yet. -/
def Errand.Begins (e : Errand) : Prop := ∃ body, e.stage = .begun body

instance decidableBegins (e : Errand) : Decidable e.Begins :=
  match h : e.stage with
  | .begun body => isTrue ⟨body, h⟩
  | .atGate _ _ _ | .patient | .delegating _ _ _ | .ended _ =>
    isFalse fun ⟨_, hbegun⟩ => by cases h.symm.trans hbegun

/-- The stage of an errand behind a step of its delegation. -/
def DelegationProgress.stage (peer : PostId) (setup : DelegationSetup) :
    DelegationProgress → ErrandStage
  | .next p => .delegating peer setup p
  | .stop outcome => .ended outcome

/-- What a step of an errand makes of its stage, and of the desk: it begins, it ends where it need
not wait any longer, or it gets an answer for its delegation. -/
inductive Errand.Goes (d : Desk) (e : Errand) : ErrandStage → Desk → Prop where
  | begins (body : ToolBody) (stage : e.stage = .begun body) :
    Goes d e ((d.noteStart e).beginErrand e body).1 ((d.noteStart e).beginErrand e body).2
  | ends (outcome : ToolOutcome) (waits : e.outcome? = none)
    (other : ∀ peer setup p, e.stage ≠ .delegating peer setup p) : Goes d e (.ended outcome) d
  | delegates (peer : PostId) (setup : DelegationSetup) (p : DelegationPhase)
    (reply : (p.request setup).Reply) (d' : Desk) (stage : e.stage = .delegating peer setup p)
    (answer : d.answerDelegation? e peer (p.request setup) = some (reply, d')) :
    Goes d e ((p.resume setup reply).stage peer setup) d'

namespace Desk

/-- The errand in a place. -/
def errandOf? (d : Desk) : TaskId → Option Errand
  | .turn _ => none
  | .toolOf i => (d.turns[i]?).bind (·.errand)
  | .errand i => d.errands[i]?

variable {d d' : Desk} {t t' : TurnTask} {e e' : Errand} {k : TaskId}

/-- The desk goes on, but its limit of delegations, its errands and its turns stay as they are; a
turn that is new waits for no errand. -/
structure Spares (d d' : Desk) : Prop where
  limit : d'.maxDepth = d.maxDepth
  errands : d'.errands = d.errands
  turns : d'.turns = d.turns ∨ ∃ t, d'.turns = d.turns ++ [t] ∧ t.errand = none

theorem Spares.refl (d : Desk) : Spares d d := ⟨rfl, rfl, .inl rfl⟩

theorem Spares.errandOf?_eq (h : Spares d d') (k : TaskId) : d'.errandOf? k = d.errandOf? k := by
  cases k with
  | turn i => rfl
  | errand i => exact congrArg (·[i]?) h.errands
  | toolOf i =>
    rcases h.turns with hturns | ⟨t, hturns, hnone⟩
    · simp only [errandOf?, hturns]
    · simp only [errandOf?, hturns, List.getElem?_append]
      split
      · rfl
      · rename_i hlen
        rw [List.getElem?_eq_none (Nat.le_of_not_lt hlen)]
        cases hlast : [t][i - d.turns.length]? with
        | none => rfl
        | some t' =>
          obtain rfl := List.mem_singleton.mp (List.mem_of_getElem? hlast)
          exact hnone

theorem Spares.tick (h : Spares d d') : Spares d d'.tick := ⟨h.limit, h.errands, h.turns⟩

/-! ## What turns do to errands -/

theorem spares_serve (d : Desk) (t : TurnTask) (request : ModelRequest) :
    Spares d (d.serve t request).2.2 ∧ (d.serve t request).2.2.turns = d.turns ∧
      (d.serve t request).2.1.errand = t.errand := by
  unfold serve
  dsimp only
  generalize Source.serve _ request d.bench.network = served
  obtain ⟨opening, prepared, source, network⟩ := served
  cases prepared with
  | none => exact ⟨⟨rfl, rfl, .inl rfl⟩, rfl, rfl⟩
  | some s =>
    dsimp only
    unfold openStream
    split <;> exact ⟨⟨rfl, rfl, .inl rfl⟩, rfl, rfl⟩

theorem spares_useTracker (d : Desk) (post : PostId) (act : Tracker → List String × Tracker) :
    Spares d (d.useTracker post act).2 ∧ (d.useTracker post act).2.turns = d.turns := by
  unfold useTracker
  split <;> exact ⟨⟨rfl, rfl, .inl rfl⟩, rfl⟩

/-- **An answer to a turn changes no errand but that of the turn**, which it gives up or begins. -/
theorem spares_answer? {r : TurnRequest} {reply : r.Reply}
    (h : d.answer? t r = some (reply, t', d')) : Spares d d' ∧ d'.turns = d.turns ∧
      ∀ e, t'.errand = some e → t.errand = some e ∨ e.Begins := by
  cases r with
  | listMessages | readSession | saveSession | createMessage | updateMessage | isCanceled =>
    cases h
    exact ⟨⟨rfl, rfl, .inl rfl⟩, rfl, fun e he => .inl he⟩
  | openStream request =>
    simp only [answer?] at h
    split at h
    · cases h
      exact ⟨.refl d, rfl, fun e he => .inl he⟩
    · obtain ⟨hspares, hturns, herrand⟩ := d.spares_serve t request
      rw [Option.some.inj h] at hspares hturns herrand
      exact ⟨hspares, hturns, fun e he => .inl (herrand.symm.trans he)⟩
  | nextEvent =>
    simp only [answer?] at h
    split at h
    · cases h
      exact ⟨.refl d, rfl, fun e he => .inl he⟩
    · split at h <;> cases h
      rename_i hreceive
      rw [eq_of_receive? hreceive]
      exact ⟨.refl d, rfl, fun e he => .inl he⟩
  | startTool messageId call =>
    simp only [answer?, sendTool] at h
    split at h
    · cases h
      exact ⟨.refl d, rfl, fun e he => .inl he⟩
    · split at h <;> cases h
      · exact ⟨.refl d, rfl, fun e he => .inl he⟩
      · refine ⟨⟨rfl, rfl, .inl rfl⟩, rfl, fun e he => .inr ?_⟩
        cases he
        exact ⟨_, rfl⟩
  | awaitTool =>
    simp only [answer?, awaitTool?] at h
    split at h
    · cases h
      have hsame : ∀ e, Spares d (d.abandon e) ∧ (d.abandon e).turns = d.turns := by
        intro e
        unfold abandon
        split <;> exact ⟨⟨rfl, rfl, .inl rfl⟩, rfl⟩
      split
      · exact ⟨(hsame _).1, (hsame _).2, fun _ he => by cases he⟩
      · exact ⟨.refl d, rfl, fun _ he => by cases he⟩
    · split at h <;> cases h
      exact ⟨.refl d, rfl, fun _ he => by cases he⟩
  | drainQueue =>
    cases h
    obtain ⟨hspares, hturns⟩ := d.spares_useTracker t.post (·.drain t.setup.sessionId)
    exact ⟨hspares, hturns, fun e he => .inl he⟩
  | finishOrTake =>
    cases h
    obtain ⟨hspares, hturns⟩ :=
      d.spares_useTracker t.post (·.finishOrTake t.setup.sessionId t.turn.generation)
    exact ⟨hspares, hturns, fun e he => .inl he⟩

/-- A step of a turn. -/
theorem spares_stepTask? (h : d.stepTask? t = some (t', d')) : Spares d d' ∧
    d'.turns = d.turns ∧ ∀ e, t'.errand = some e → t.errand = some e ∨ e.Begins := by
  unfold stepTask? at h
  split at h
  · rename_i p _
    unfold stepCourse? at h
    split at h
    · cases h
    · rename_i hanswer
      obtain ⟨hspares, hturns, herrand⟩ := spares_answer? hanswer
      have hspares' := hspares.tick
      split at h <;> cases h
      · exact ⟨hspares', hturns, herrand⟩
      · exact ⟨hspares', hturns, fun _ he => by cases he⟩
  · cases h
    exact ⟨⟨rfl, rfl, .inl rfl⟩, rfl, fun e he => .inl he⟩
  · cases h
    exact ⟨⟨rfl, rfl, .inl rfl⟩, rfl, fun e he => .inl he⟩
  · cases h

/-! ## What errands do to errands -/

/-- A prompt that is submitted may start a turn at its beginning. -/
theorem spares_submit {post : PostId} {parent : TokenId} {session prompt : String}
    {files : List Binary} {r : Submission}
    (h : d.submit post parent session prompt files = some (r, d')) : Spares d d' := by
  obtain ⟨p, -, h⟩ := Option.map_eq_some_iff.mp h
  generalize p.tracker.submit d.tokens session parent prompt = answer at h
  obtain ⟨admission, tracker, tokens⟩ := answer
  cases admission with
  | queued =>
    cases h
    exact ⟨rfl, rfl, .inl rfl⟩
  | started turn =>
    cases h
    exact ⟨rfl, rfl, .inr ⟨_, rfl, rfl⟩⟩

theorem spares_answerDelegation? {peer : PostId} {r : DelegationRequest} {reply : r.Reply}
    (h : d.answerDelegation? e peer r = some (reply, d')) : Spares d d' := by
  cases r with
  | readSession | openTask | saveSession =>
    cases h
    exact ⟨rfl, rfl, .inl rfl⟩
  | submit session prompt =>
    simp only [answerDelegation?] at h
    split at h
    · rename_i hsubmit
      cases h
      exact spares_submit hsubmit
    · rename_i hsubmit
      cases h
      exact spares_submit hsubmit
    · cases h
  | awaitTurn turn =>
    simp only [answerDelegation?] at h
    split at h <;> cases h
    exact .refl d

/-- An errand that delegates goes on where the answer to its request leads. -/
theorem stepErrand?_of_answer {peer : PostId} {setup : DelegationSetup} {p : DelegationPhase}
    {reply : (p.request setup).Reply} (hstage : e.stage = .delegating peer setup p)
    (h : d.answerDelegation? e peer (p.request setup) = some (reply, d')) :
    d.stepErrand? e = some ({ e with stage := (p.resume setup reply).stage peer setup }, d') := by
  unfold stepErrand? nextStage?
  rw [hstage]
  dsimp only
  unfold stepDelegation?
  rw [h]
  dsimp only
  cases p.resume setup reply <;> rfl

/-- **All that a step of an errand can be.** -/
theorem goes_stepErrand? (h : d.stepErrand? e = some (e', d')) :
    ∃ stage, e' = { e with stage } ∧ e.Goes d stage d' := by
  obtain ⟨⟨stage, d''⟩, hnext, heq⟩ := Option.map_eq_some_iff.mp h
  cases heq
  refine ⟨stage, rfl, ?_⟩
  cases hstage : e.stage with
  | begun body =>
    unfold nextStage? at hnext
    rw [hstage] at hnext
    have hbegun := Option.some.inj hnext
    obtain rfl : ((d.noteStart e).beginErrand e body).1 = stage := congrArg Prod.fst hbegun
    obtain rfl : ((d.noteStart e).beginErrand e body).2 = d' := congrArg Prod.snd hbegun
    exact .begins body hstage
  | delegating peer setup p =>
    cases hanswer : d.answerDelegation? e peer (p.request setup) with
    | none =>
      unfold nextStage? at hnext
      rw [hstage] at hnext
      dsimp only at hnext
      unfold stepDelegation? at hnext
      rw [hanswer] at hnext
      cases hnext
    | some r =>
      obtain ⟨reply, d''⟩ := r
      have hstep := (stepErrand?_of_answer hstage hanswer).symm.trans h
      simp only [Option.some.injEq, Prod.mk.injEq, Errand.mk.injEq, true_and] at hstep
      obtain ⟨rfl, rfl⟩ := hstep
      exact .delegates peer setup p reply _ hstage hanswer
  | atGate gate ticket response =>
    unfold nextStage? at hnext
    rw [hstage] at hnext
    dsimp only at hnext
    split at hnext <;> cases hnext
    exact .ends _ (by rw [Errand.outcome?, hstage])
      fun _ _ _ hother => by cases hstage.symm.trans hother
  | patient =>
    unfold nextStage? at hnext
    rw [hstage] at hnext
    dsimp only at hnext
    split at hnext <;> cases hnext
    exact .ends _ (by rw [Errand.outcome?, hstage])
      fun _ _ _ hother => by cases hstage.symm.trans hother
  | ended outcome =>
    unfold nextStage? at hnext
    rw [hstage] at hnext
    cases hnext

/-- A step of an errand that delegates has the answer to its request in it. -/
theorem answer_of_stepErrand? {peer : PostId} {setup : DelegationSetup} {p : DelegationPhase}
    (hstage : e.stage = .delegating peer setup p) (h : d.stepErrand? e = some (e', d')) :
    ∃ reply, d.answerDelegation? e peer (p.request setup) = some (reply, d') ∧
      e' = { e with stage := (p.resume setup reply).stage peer setup } := by
  obtain ⟨stage, rfl, hgoes⟩ := goes_stepErrand? h
  cases hgoes with
  | begins body hbegun => cases hbegun.symm.trans hstage
  | ends outcome _ hother => exact absurd hstage (hother peer setup p)
  | delegates peer' setup' p' reply _ hstage' hanswer =>
    cases hstage'.symm.trans hstage
    exact ⟨reply, hanswer, rfl⟩

/-- An errand that has ended makes no step. -/
theorem stepErrand?_eq_none {outcome : ToolOutcome} (hstage : e.stage = .ended outcome) :
    d.stepErrand? e = none := by
  unfold stepErrand? nextStage?
  rw [hstage]
  rfl

/-- A step of an errand leaves the errands in all places as they are; the errand itself is put back
behind it. -/
theorem spares_stepErrand? (h : d.stepErrand? e = some (e', d')) : Spares d d' := by
  obtain ⟨stage, -, hgoes⟩ := goes_stepErrand? h
  cases hgoes with
  | begins body => cases body <;> exact ⟨rfl, rfl, .inl rfl⟩
  | ends => exact .refl d
  | delegates peer setup p reply d' _ hanswer => exact spares_answerDelegation? hanswer

theorem spares_cancel (d : Desk) (post : PostId) (session : String) :
    Spares d (d.cancel post session) := by
  unfold cancel
  split <;> exact ⟨rfl, rfl, .inl rfl⟩

/-! ## The errand in a place -/

/-- **A step of the errand in a place.** -/
theorem errandOf?_step (he : d.errandOf? k = some e) (h : d.stepErrand? e = some (e', d')) :
    (d.move (.step k)).errandOf? k = some e' ∧ (d.move (.step k)).store = d'.store := by
  have hspares := spares_stepErrand? h
  cases k with
  | turn i => cases he
  | errand i =>
    have hi : d.errands[i]? = some e := he
    have hlt := (List.getElem?_eq_some_iff.mp hi).1
    simp [move, step?, stepOwnErrand?, hi, h, errandOf?, hspares.errands,
      List.getElem?_set_self hlt]
  | toolOf i =>
    obtain ⟨t, hi, ht⟩ := Option.bind_eq_some_iff.mp he
    have hi' : d'.turns[i]? = some t := by
      rcases hspares.turns with hturns | ⟨t', hturns, -⟩
      · rw [hturns, hi]
      · rw [hturns, List.getElem?_append_left (List.getElem?_eq_some_iff.mp hi).1, hi]
    simp [move, step?, stepToolOf?, hi, ht, h, errandOf?, hi']

/-- An errand that has to wait moves nothing. -/
theorem move_of_stepErrand?_eq_none (he : d.errandOf? k = some e) (h : d.stepErrand? e = none) :
    d.move (.step k) = d := by
  cases k with
  | turn i => cases he
  | errand i =>
    have hi : d.errands[i]? = some e := he
    simp [move, step?, stepOwnErrand?, hi, h]
  | toolOf i =>
    obtain ⟨t, hi, ht⟩ := Option.bind_eq_some_iff.mp he
    simp [move, step?, stepToolOf?, hi, ht, h]

/-- A step in a place without an errand moves nothing. -/
theorem move_of_errandOf?_eq_none (hk : ∀ i, k ≠ .turn i) (h : d.errandOf? k = none) :
    d.move (.step k) = d := by
  cases k with
  | turn i => exact absurd rfl (hk i)
  | errand i =>
    have hi : d.errands[i]? = none := h
    simp [move, step?, stepOwnErrand?, hi]
  | toolOf i =>
    simp only [move, step?, stepToolOf?]
    split
    · rfl
    · rename_i t hi
      have ht : t.errand = none := by simpa [errandOf?, hi] using h
      simp [ht]

/-- A step of a turn changes the errand of that turn only. -/
theorem errandOf?_turn (i : Nat) (he : (d.move (.step (.turn i))).errandOf? k = some e) :
    d.errandOf? k = some e ∨ e.Begins := by
  cases hi : d.turns[i]? with
  | none =>
    have hsame : d.move (.step (.turn i)) = d := by simp [move, step?, stepTurn?, hi]
    exact .inl (hsame ▸ he)
  | some t =>
    rw [move_turn hi] at he
    cases hstep : d.stepTask? t with
    | none =>
      rw [hstep] at he
      exact .inl he
    | some r =>
      obtain ⟨t', d'⟩ := r
      obtain ⟨hspares, hturns, herrand⟩ := spares_stepTask? hstep
      rw [hstep] at he
      cases k with
      | turn j => cases he
      | errand j => exact .inl ((congrArg (·[j]?) hspares.errands).symm.trans he)
      | toolOf j =>
        simp only [Option.map_some, Option.getD_some, errandOf?, setTurn, hturns] at he ⊢
        by_cases hj : i = j
        · subst hj
          rw [List.getElem?_set_self (List.getElem?_eq_some_iff.mp hi).1] at he
          rw [hi]
          exact herrand e he
        · rw [List.getElem?_set_ne hj] at he
          exact .inl he

/-- A step of an errand changes the errand in its place only. -/
theorem errandOf?_step_of_ne {j : TaskId} (hj : ∀ i, j ≠ .turn i) (hne : j ≠ k) :
    (d.move (.step j)).errandOf? k = d.errandOf? k := by
  cases he : d.errandOf? j with
  | none => rw [move_of_errandOf?_eq_none hj he]
  | some e =>
    cases hstep : d.stepErrand? e with
    | none => rw [move_of_stepErrand?_eq_none he hstep]
    | some r =>
      obtain ⟨e', d'⟩ := r
      refine Eq.trans ?_ ((spares_stepErrand? hstep).errandOf?_eq k)
      cases j with
      | turn i => exact absurd rfl (hj i)
      | errand i =>
        have hi : d.errands[i]? = some e := he
        have hmove : d.move (.step (.errand i)) =
            { d' with errands := d'.errands.set i e' } := by
          simp [move, step?, stepOwnErrand?, hi, hstep]
        rw [hmove]
        cases k with
        | turn l | toolOf l => rfl
        | errand l =>
          have hil : i ≠ l := fun h => hne (h ▸ rfl)
          exact List.getElem?_set_ne hil
      | toolOf i =>
        obtain ⟨t, hi, ht⟩ := Option.bind_eq_some_iff.mp he
        have hmove : d.move (.step (.toolOf i)) =
            { d' with turns := d'.turns.modify i fun t => { t with errand := some e' } } := by
          simp [move, step?, stepToolOf?, hi, ht, hstep]
        rw [hmove]
        cases k with
        | turn l | errand l => rfl
        | toolOf l =>
          have hil : i ≠ l := fun h => hne (h ▸ rfl)
          simp [errandOf?, hil]

/-- **An errand changes by its own steps only**: behind any other move it was in its place before,
or it begins there. -/
theorem errandOf?_move {m : DeskMove} (hm : m ≠ .step k) (he : (d.move m).errandOf? k = some e) :
    d.errandOf? k = some e ∨ e.Begins := by
  cases m with
  | step j =>
    cases j with
    | turn i => exact errandOf?_turn i he
    | toolOf i | errand i =>
      have hne : (_ : TaskId) ≠ k := fun hj => hm (congrArg DeskMove.step hj)
      exact .inl ((errandOf?_step_of_ne (fun _ h => by cases h) hne).symm.trans he)
  | submit post parent session prompt files =>
    simp only [move] at he
    split at he
    · rename_i hsubmit
      exact .inl (((spares_submit hsubmit).errandOf?_eq k).symm.trans he)
    · exact .inl he
  | cancel post session =>
    exact .inl (((d.spares_cancel post session).errandOf?_eq k).symm.trans he)
  | clearQueue | cancelToken | forkToken | release => exact .inl he
  | ask session body call =>
    cases k with
    | turn i => cases he
    | toolOf i => exact .inl he
    | errand i =>
      have hi : (d.errands ++ [_])[i]? = some e := he
      rw [List.getElem?_append] at hi
      split at hi
      · exact .inl hi
      · obtain rfl := List.mem_singleton.mp (List.mem_of_getElem? hi)
        exact .inr ⟨body, rfl⟩

/-- The limit of delegations stays the same. -/
theorem maxDepth_move (d : Desk) (m : DeskMove) : (d.move m).maxDepth = d.maxDepth := by
  cases m with
  | submit post parent session prompt files =>
    simp only [move]
    split
    · rename_i hsubmit
      exact (spares_submit hsubmit).limit
    · rfl
  | cancel post session => exact (d.spares_cancel post session).limit
  | clearQueue | cancelToken | forkToken | release | ask => rfl
  | step k =>
    cases k with
    | turn i =>
      cases hi : d.turns[i]? with
      | none => simp [move, step?, stepTurn?, hi]
      | some t =>
        rw [move_turn hi]
        cases hstep : d.stepTask? t with
        | none => rfl
        | some r => exact (spares_stepTask? hstep).1.limit
    | toolOf i =>
      simp only [move, step?, stepToolOf?]
      split
      · rfl
      · split
        · rfl
        · rename_i e _
          cases hstep : d.stepErrand? e with
          | none => rfl
          | some r => exact (spares_stepErrand? hstep).limit
    | errand i =>
      simp only [move, step?, stepOwnErrand?]
      split
      · rfl
      · rename_i e _
        cases hstep : d.stepErrand? e with
        | none => rfl
        | some r => exact (spares_stepErrand? hstep).limit

end Desk

end AgentDesk
