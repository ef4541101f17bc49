import AgentDesk.Proofs.Desk.Moves
/-!
# No prompt waits for an idle session

A prompt for a busy session waits in its queue, and the turn that runs there takes it when it comes
to its natural end: finding the queue empty and leaving the tracker is one step. A turn that ends in
any other way leaves its tracker without a look at the queue. If prompts wait at that moment, they
are abandoned: nobody takes them until another turn of the session asks for prompts. This is the
only way to strand a prompt.

## Main definitions

* `Desk.Orderly` — no prompt waits for a session without a turn.
* `Concluded` — a turn came to its natural end.
* `Desk.Abandons` — the next step of a turn abandons the prompts that wait for it.
-/

namespace AgentDesk

/-- A turn came to its natural end: its last message was closed as the end of the turn. -/
def Concluded (outcome : TurnOutcome) : Prop :=
  ∃ m, outcome = .ok m ∧ m.finishReason? = some .endTurn

namespace Desk

/-- No prompt waits for a session without a turn, at any post. -/
def Orderly (d : Desk) : Prop := ∀ p ∈ d.posts, p.tracker.Orderly

/-- A turn that did not come to its natural end is about to leave its tracker, is still registered
there, and prompts wait for it. -/
def Abandons (d : Desk) (i : Nat) : Prop :=
  ∃ t outcome p, d.turns[i]? = some t ∧ t.stage = .unregistering outcome ∧ ¬ Concluded outcome ∧
    d.posts[t.post]? = some p ∧ p.tracker.owns t.setup.sessionId t.turn.generation ∧
      p.tracker.queueOf t.setup.sessionId ≠ []

/-- What is known of the turns: none is of a generation that its tracker has not reached, and one
that came to its natural end is not registered any more. -/
structure Accounted (d : Desk) : Prop where
  generation : ∀ (i : Nat) (t : TurnTask) (k : Tracker), d.cards[i]? = some t →
    d.trackers[t.post]? = some k → t.turn.generation ≤ k.lastGeneration
  concluded : ∀ (i : Nat) (t : TurnTask) (outcome : TurnOutcome) (k : Tracker),
    d.cards[i]? = some t → t.stage = .unregistering outcome → Concluded outcome →
      d.trackers[t.post]? = some k → ¬ k.owns t.setup.sessionId t.turn.generation

variable {d d' : Desk}

theorem orderly_iff : d.Orderly ↔ ∀ t ∈ d.trackers, t.Orderly := by
  simp [Orderly, trackers]

theorem abandons_iff {i : Nat} : d.Abandons i ↔ ∃ t outcome k, d.cards[i]? = some t ∧
    t.stage = .unregistering outcome ∧ ¬ Concluded outcome ∧ d.trackers[t.post]? = some k ∧
      k.owns t.setup.sessionId t.turn.generation ∧ k.queueOf t.setup.sessionId ≠ [] := by
  constructor
  · rintro ⟨t, outcome, p, ht, hstage, hnot, hp, howns, hqueue⟩
    exact ⟨t.card, outcome, p.tracker, by simp [cards, ht], hstage, hnot,
      by simp [trackers, TurnTask.card, hp], howns, hqueue⟩
  · rintro ⟨t, outcome, k, ht, hstage, hnot, hk, howns, hqueue⟩
    simp only [cards, List.getElem?_map, Option.map_eq_some_iff] at ht
    obtain ⟨t, ht, rfl⟩ := ht
    simp only [trackers, List.getElem?_map, Option.map_eq_some_iff] at hk
    obtain ⟨p, hp, rfl⟩ := hk
    exact ⟨t, outcome, p, ht, hstage, hnot, hp, howns, hqueue⟩

end Desk

/-! ## The natural end of a turn -/

namespace TurnPhase

variable {setup : TurnSetup} {now : Timestamp}

theorem not_concluded_error (cause : TurnFailure) : ¬ Concluded (.error cause) := by
  rintro ⟨m, hm, -⟩
  cases hm

theorem not_concluded_afterRound {history : List Message} {m : Message} {tools : Option Message}
    {outcome : TurnOutcome} (h : afterRound now history m tools = .stop outcome) :
    ¬ Concluded outcome := by
  rintro ⟨m', rfl, hend⟩
  rcases afterRound_eq_stop h with ⟨-, heq⟩ | ⟨hne, heq⟩ <;> cases heq
  exact hne hend

/-- **A turn that comes to its natural end has left its tracker**, in the step in which it found
that no prompts wait for it. -/
theorem not_owns_of_concluded {p : TurnPhase} {reply : (p.request setup).Reply}
    {outcome : TurnOutcome} {session : String} {generation : Nat} {k : Tracker}
    (h : p.resume setup now reply = .stop outcome) (hc : Concluded outcome)
    (hp : (p.request setup).Prompted session generation (some k) reply) :
    ¬ ((p.request setup).track session generation k).owns session generation := by
  cases p with
  | listing | reading | prompting | answering | queuing =>
    simp only [resume, storeFailed] at h
    split at h <;> try split at h
    all_goals cases h <;> exact absurd hc (not_concluded_error _)
  | round =>
    simp only [resume] at h
    split at h <;> cases h
    exact absurd hc (not_concluded_error _)
  | opening =>
    simp only [resume] at h
    split at h <;> cases h
    exact absurd hc (not_concluded_error _)
  | streaming history m =>
    simp only [resume] at h
    split at h
    · cases h
    · unfold afterStream at h
      split at h
      · exact absurd hc (not_concluded_afterRound h)
      · cases h
    · split at h <;> cases h
  | saving | accounting | charging | dispatching | awaiting =>
    simp only [resume] at h
    split at h <;> try split at h
    all_goals cases h
  | stopping => cases h
  | recording history m results =>
    simp only [resume, storeFailed] at h
    split at h
    · cases h
      exact absurd hc (not_concluded_error _)
    · exact absurd hc (not_concluded_afterRound h)
  | draining => cases h
  | taking history m =>
    simp only [resume] at h
    split at h
    · rename_i hnone
      have hprompts : (k.finishOrTake session generation).1 = reply := Eq.symm hp
      exact Tracker.not_owns_finishOrTake (hprompts.trans (List.isEmpty_iff.mp hnone))
    · split at h <;> cases h
  | failing =>
    simp only [resume] at h
    split at h <;> cases h
    exact absurd hc (not_concluded_error _)
  | excusing | closing =>
    cases h
    exact absurd hc (not_concluded_error _)

end TurnPhase

theorem TurnProgress.eq_stop_of_stage {progress : TurnProgress} {outcome : TurnOutcome}
    (h : progress.stage = .unregistering outcome) : progress = .stop outcome := by
  cases progress <;> cases h
  rfl

namespace Tracker

theorem moved_track (s : String) (g : Nat) (t : Tracker) (r : TurnRequest) :
    Moved t (r.track s g t) := by
  cases r with
  | drainQueue => exact t.moved_clearQueue s
  | finishOrTake => exact t.moved_finishOrTake s g
  | _ => exact .refl t

theorem Orderly.track {t : Tracker} (h : t.Orderly) (s : String) (g : Nat) (r : TurnRequest) :
    (r.track s g t).Orderly := by
  cases r with
  | drainQueue => exact h.clearQueue s
  | finishOrTake => exact h.finishOrTake s g
  | _ => exact h

end Tracker

namespace Desk

variable {d d' : Desk}

/-! ## What every move keeps -/

/-- A move of a tracker does not touch what is known of a turn. -/
theorem Accounted.tracker {i : Nat} {t : TurnTask} (h : d.Accounted) (ht : d.cards[i]? = some t)
    (htrackers : ∀ (j : PostId) (k' : Tracker), d'.trackers[j]? = some k' →
      ∃ k, d.trackers[j]? = some k ∧ Tracker.Moved k k') {k' : Tracker}
    (hk' : d'.trackers[t.post]? = some k') :
    t.turn.generation ≤ k'.lastGeneration ∧ ∀ outcome, t.stage = .unregistering outcome →
      Concluded outcome → ¬ k'.owns t.setup.sessionId t.turn.generation := by
  obtain ⟨k, hk, hmoved⟩ := htrackers t.post k' hk'
  have hgeneration := h.generation i t k ht hk
  refine ⟨Nat.le_trans hgeneration hmoved.generation, fun outcome hstage hc howns => ?_⟩
  exact h.concluded i t outcome k ht hstage hc hk (hmoved.owns hgeneration howns)

theorem accounted_serves (h : d.Accounted) (hs : Serves d d') : d'.Accounted := by
  have htrackers : ∀ (j : PostId) (k' : Tracker), d'.trackers[j]? = some k' →
      ∃ k, d.trackers[j]? = some k ∧ Tracker.Moved k k' := fun j k' hk' => by
    obtain ⟨k, hk, hmoved, -⟩ := hs.trackers j k' hk'
    exact ⟨k, hk, hmoved⟩
  rcases hs.cards with hcards | ⟨task, hcards, hstage, hgeneration⟩
  · refine ⟨fun i t k' ht hk' => ?_, fun i t outcome k' ht hstage hc hk' => ?_⟩
    · exact (h.tracker (hcards ▸ ht) htrackers hk').1
    · exact (h.tracker (hcards ▸ ht) htrackers hk').2 outcome hstage hc
  · refine ⟨fun i t k' ht hk' => ?_, fun i t outcome k' ht hout hc hk' => ?_⟩
    · rcases card_append_cases hcards ht with ht | ⟨-, rfl⟩
      · exact (h.tracker ht htrackers hk').1
      · exact hgeneration k' hk'
    · rcases card_append_cases hcards ht with ht | ⟨-, rfl⟩
      · exact (h.tracker ht htrackers hk').2 outcome hout hc
      · rw [hstage] at hout
        cases hout

/-- A step of a turn: what is known of the other turns stays, and it remains to say what is known
of this one. -/
theorem Accounted.set {i : Nat} {t : TurnTask} {stage : TurnStage} (h : d.Accounted)
    (ht : d.cards[i]? = some t) (hcards : d'.cards = d.cards.set i { t with stage := stage })
    (htrackers : ∀ (j : PostId) (k' : Tracker), d'.trackers[j]? = some k' →
      ∃ k, d.trackers[j]? = some k ∧ Tracker.Moved k k')
    (hnew : ∀ outcome k', stage = .unregistering outcome → Concluded outcome →
      d'.trackers[t.post]? = some k' → ¬ k'.owns t.setup.sessionId t.turn.generation) :
    d'.Accounted := by
  refine ⟨fun j t' k' ht' hk' => ?_, fun j t' outcome k' ht' hout hc hk' => ?_⟩
  · rcases card_set_cases hcards ht' with ⟨-, hold⟩ | ⟨-, rfl⟩
    · exact (h.tracker hold htrackers hk').1
    · exact (h.tracker ht htrackers hk').1
  · rcases card_set_cases hcards ht' with ⟨-, hold⟩ | ⟨-, rfl⟩
    · exact (h.tracker hold htrackers hk').2 outcome hout hc
    · exact hnew outcome k' hout hc hk'

/-- One tracker makes a move, and all others stay. -/
theorem moved_of_modify {post : PostId} {f : Tracker → Tracker}
    (h : d'.trackers = d.trackers.modify post f) (hf : ∀ k, Tracker.Moved k (f k)) (j : PostId)
    (k' : Tracker) (hk' : d'.trackers[j]? = some k') :
    ∃ k, d.trackers[j]? = some k ∧ Tracker.Moved k k' := by
  obtain ⟨k, hk, ⟨-, rfl⟩ | ⟨-, rfl⟩⟩ := tracker_cases h hk'
  · exact ⟨k, hk, hf k⟩
  · exact ⟨k', hk, .refl k'⟩

theorem accounted_advances {i : Nat} (h : d.Accounted) (hs : Advances d i d') :
    d'.Accounted := by
  cases hs with
  | rests same => exact same ▸ h
  | works t p now reply card stage exchange cards trackers tokens halted honest prompted =>
    refine h.set card cards (moved_of_modify trackers fun k => k.moved_track ..) ?_
    intro outcome k' hout hc hk'
    have hstop := TurnProgress.eq_stop_of_stage hout
    obtain ⟨k, hk, ⟨-, rfl⟩ | ⟨hne, -⟩⟩ := tracker_cases trackers hk'
    · rw [hk] at prompted
      exact TurnPhase.not_owns_of_concluded hstop hc prompted
    · exact absurd rfl hne
  | leaves t outcome card stage exchange cards trackers tokens =>
    refine h.set card cards (moved_of_modify trackers fun k => k.moved_finish ..) ?_
    rintro outcome' k' ⟨⟩
  | delivers t outcome card stage exchange cards trackers tokens =>
    refine h.set card cards (fun j k' hk' => ⟨k', trackers ▸ hk', .refl k'⟩) ?_
    rintro outcome' k' ⟨⟩

theorem accounted_move (h : d.Accounted) (m : DeskMove) : (d.move m).Accounted := by
  by_cases hm : ∃ i, m = .step (.turn i)
  · obtain ⟨i, rfl⟩ := hm
    exact accounted_advances h (d.advances_move i)
  · exact accounted_serves h (d.serves_move fun i hi => hm ⟨i, hi⟩)

/-! ## Order -/

/-- Only a turn that is about to leave abandons prompts. -/
theorem Abandons.stage {i : Nat} {t : TurnTask} (h : d.Abandons i) (ht : d.cards[i]? = some t) :
    ∃ outcome, t.stage = .unregistering outcome := by
  obtain ⟨t', outcome, k, ht', hstage, -⟩ := abandons_iff.mp h
  obtain rfl := Option.some.inj (ht.symm.trans ht')
  exact ⟨outcome, hstage⟩

theorem orderly_modify {post : PostId} {f : Tracker → Tracker} (ho : d.Orderly)
    (h : d'.trackers = d.trackers.modify post f)
    (hf : ∀ k, d.trackers[post]? = some k → k.Orderly → (f k).Orderly) : d'.Orderly := by
  rw [orderly_iff] at ho ⊢
  intro k' hmem
  obtain ⟨j, hk'⟩ := List.mem_iff_getElem?.mp hmem
  obtain ⟨k, hk, ⟨rfl, rfl⟩ | ⟨-, rfl⟩⟩ := tracker_cases h hk'
  · exact hf k hk (ho k (List.mem_of_getElem? hk))
  · exact ho k' (List.mem_of_getElem? hk)

theorem orderly_serves (ho : d.Orderly) (hs : Serves d d') : d'.Orderly := by
  rw [orderly_iff] at ho ⊢
  intro k' hmem
  obtain ⟨j, hk'⟩ := List.mem_iff_getElem?.mp hmem
  obtain ⟨k, hk, -, horderly⟩ := hs.trackers j k' hk'
  exact horderly (ho k (List.mem_of_getElem? hk))

/-- **A step of a turn keeps the order, unless it abandons prompts.** -/
theorem orderly_advances_iff {i : Nat} (ha : d.Accounted) (ho : d.Orderly)
    (hs : Advances d i d') : d'.Orderly ↔ ¬ d.Abandons i := by
  cases hs with
  | rests same exchange waits =>
    refine iff_of_true (same ▸ ho) fun habandons => ?_
    obtain ⟨t, -, -, ht, -⟩ := abandons_iff.mp habandons
    obtain ⟨outcome, hstage⟩ := habandons.stage ht
    rcases waits t ht with ⟨outcome', hended⟩ | ⟨⟨p, hworking⟩, -⟩
    · cases hstage.symm.trans hended
    · cases hstage.symm.trans hworking
  | works t p now reply card stage exchange cards trackers tokens halted honest prompted =>
    refine iff_of_true (orderly_modify ho trackers fun k _ hk => hk.track _ _ _) fun habandons => ?_
    obtain ⟨outcome, hstage⟩ := habandons.stage card
    cases hstage.symm.trans stage
  | leaves t outcome card stage exchange cards trackers tokens =>
    constructor
    · intro ho' habandons
      obtain ⟨t', -, k, ht', -, -, hk, howns, hqueue⟩ := abandons_iff.mp habandons
      obtain rfl := Option.some.inj (card.symm.trans ht')
      have hk' : d'.trackers[t.post]? =
          some (k.finish t.setup.sessionId t.turn.generation).2 := by
        rw [trackers, List.getElem?_modify_eq, hk]
        rfl
      have horderly := orderly_iff.mp ho' _ (List.mem_of_getElem? hk')
      have hbefore := orderly_iff.mp ho k (List.mem_of_getElem? hk)
      exact hqueue ((hbefore.finish_iff _ _).mp horderly howns)
    · intro hnot
      refine orderly_modify ho trackers fun k hk hbefore => ?_
      refine (hbefore.finish_iff _ _).mpr fun howns => ?_
      refine Decidable.byContradiction fun hqueue => ?_
      have hopen : ¬ Concluded outcome := fun hc =>
        ha.concluded i t outcome k card stage hc hk howns
      exact hnot (abandons_iff.mpr ⟨t, outcome, k, card, stage, hopen, hk, howns, hqueue⟩)
  | delivers t outcome card stage exchange cards trackers tokens =>
    refine iff_of_true (orderly_iff.mpr (trackers ▸ orderly_iff.mp ho)) fun habandons => ?_
    obtain ⟨outcome', hstage⟩ := habandons.stage card
    cases hstage.symm.trans stage

theorem orderly_move_iff (ha : d.Accounted) (ho : d.Orderly) (m : DeskMove) :
    (d.move m).Orderly ↔ ∀ i, m = .step (.turn i) → ¬ d.Abandons i := by
  by_cases hm : ∃ i, m = .step (.turn i)
  · obtain ⟨i, rfl⟩ := hm
    rw [orderly_advances_iff ha ho (d.advances_move i)]
    constructor
    · rintro h j ⟨⟩
      exact h
    · exact fun h => h i rfl
  · exact iff_of_true (orderly_serves ho (d.serves_move fun i hi => hm ⟨i, hi⟩))
      fun i hi => absurd ⟨i, hi⟩ hm

/-! ## Runs -/

section

variable (roster : Roster) (sources : List Source) (store : WatchedStore) (bench : Workbench)

theorem cards_openOn : (openOn roster sources store bench).cards = [] := rfl

theorem accounted_openOn : (openOn roster sources store bench).Accounted := by
  refine ⟨fun i t k ht => ?_, fun i t outcome k ht => ?_⟩ <;> simp [cards_openOn] at ht

theorem orderly_openOn : (openOn roster sources store bench).Orderly := by
  intro p hp
  obtain ⟨agent, -, rfl⟩ := List.mem_map.mp hp
  exact Tracker.orderly_idle

theorem accounted_run (moves : List DeskMove) :
    ((openOn roster sources store bench).run moves).Accounted := by
  have hall : ∀ d : Desk, d.Accounted → (d.run moves).Accounted := by
    induction moves with
    | nil => exact fun d h => h
    | cons m moves ih => exact fun d h => ih (d.move m) (accounted_move h m)
  exact hall _ (accounted_openOn ..)

/-- **When prompts are stranded.** Whatever is asked of a desk and in whatever order its tasks make
their steps: in all states on the way no prompt waits for a session without a turn, exactly if no
turn leaves its tracker while prompts wait for it. Such a turn ended in some other way than with the
natural end of its last message. -/
theorem orderly_run_iff (moves : List DeskMove) :
    (∀ n, ((openOn roster sources store bench).run (moves.take n)).Orderly) ↔
      ∀ n i, moves[n]? = some (.step (.turn i)) →
        ¬ ((openOn roster sources store bench).run (moves.take n)).Abandons i := by
  have hsucc : ∀ n m, moves[n]? = some m →
      (openOn roster sources store bench).run (moves.take (n + 1)) =
        ((openOn roster sources store bench).run (moves.take n)).move m := by
    intro n m hm
    rw [List.take_add_one, hm, run_append]
    rfl
  constructor
  · intro horderly n i hm
    have hafter := horderly (n + 1)
    rw [hsucc n _ hm, orderly_move_iff (accounted_run ..) (horderly n)] at hafter
    exact hafter i rfl
  · intro hnone n
    induction n with
    | zero => exact orderly_openOn roster sources store bench
    | succ n ih =>
      cases hm : moves[n]? with
      | none =>
        rw [List.take_add_one, hm]
        simpa using ih
      | some m =>
        rw [hsucc n m hm, orderly_move_iff (accounted_run ..) ih]
        rintro i rfl
        exact hnone n i hm

end

/-- An agent without tools, and a turn of its provider that is cut short. -/
def briefAgent : Agent := ⟨"a", "a", 0, default, .empty, none, 1000⟩

@[inherit_doc briefAgent]
def cutShort : ScriptedTurn := .stream none [.complete ⟨"", [], .zero, .maxTokens⟩] false

/-- A prompt that waits for a turn whose answer is cut short is stranded. -/
theorem exists_run_not_orderly :
    ∃ (roster : Roster) (sources : List Source) (store : WatchedStore) (bench : Workbench)
      (moves : List DeskMove),
      ¬ ∀ n, ((openOn roster sources store bench).run (moves.take n)).Orderly := by
  refine ⟨⟨[briefAgent], [], 4⟩, [.script (.ofTurns [cutShort])], .ofStore (.memory .empty) [],
    ⟨default, default, default⟩, [.forkToken none, .submit 0 0 "s" "hello" [],
      .submit 0 0 "s" "more" []] ++ List.replicate 12 (.step (.turn 0)), ?_⟩
  rw [orderly_run_iff]
  intro hnone
  refine hnone 14 0 rfl ⟨_, _, _, rfl, rfl, ?_, rfl, ?_, ?_⟩
  · rintro ⟨m, hm, hend⟩
    cases hm
    revert hend
    decide +kernel
  · decide +kernel
  · decide +kernel

end Desk

end AgentDesk
