import AgentDesk.Desk.Shutdown
import AgentDesk.Proofs.Desk.Registration
/-!
# What the stopping of an agent waits for

Whoever stops an agent cancels the turns that are registered and then waits until none is. But a
turn that is canceled is not registered any more, while it has still to close its message and to
deliver its outcome. So there is nothing left to wait for: no turn that was registered at the
beginning need have made a step by the time the agent is found idle. What is certain at that time is
only that such a turn will make no more than its last steps, for its course is over or its token is
canceled.

## Main definitions

* `StopMove`, `Desk.stopRun` — the stopping of an agent amid everything else that happens.
* `Desk.StopsInTime` — the agent is found idle.
* `Desk.RegisteredAt` — a turn is registered at a post.
* `Desk.Done` — a turn has delivered its outcome, and no message of its session is open.
-/

namespace AgentDesk

/-- What can happen while an agent is stopped: whoever stops it makes a step, be the deadline passed
or not, or something else happens on the desk. -/
inductive StopMove where
  | own (late : Bool)
  | other (m : DeskMove)

/-- A message of the assistant is closed: it is finished, and each of its calls has a result among
some messages. -/
def Message.ClosedIn (ms : List Message) (m : Message) : Prop :=
  m.isFinished ∧ ∀ c ∈ m.toolCalls, ∃ t ∈ ms, ∃ r ∈ t.toolResults, r.callId = c.id

theorem Tracker.isBusy_eq_false_iff {t : Tracker} :
    t.isBusy = false ↔ ∀ s, t.turnOf? s = none := by
  unfold isBusy turnOf?
  cases t.active with
  | nil => simp [Table.get?]
  | cons e active =>
    refine iff_of_false (by simp) fun hnone => ?_
    have hfirst := hnone e.1
    simp [Table.get?] at hfirst

namespace Desk

variable {d d' : Desk} {post : PostId} {i : Nat}

/-- One move while an agent is stopped. -/
def stopMove (post : PostId) : Shutdown × Desk → StopMove → Shutdown × Desk
  | (s, d), .own late => (d.stepShutdown? post late s).getD (s, d)
  | (s, d), .other m => (s, d.move m)

/-- How far the stopping of an agent has come behind some moves, and the desk. -/
def stopRun (d : Desk) (post : PostId) (moves : List StopMove) : Shutdown × Desk :=
  moves.foldl (stopMove post) (.asked, d)

/-- Behind some moves, whoever stops an agent finds it idle. -/
def StopsInTime (d : Desk) (post : PostId) (moves : List StopMove) : Prop :=
  ∃ late, ((d.stopRun post moves).2.stepShutdown? post late (d.stopRun post moves).1).map (·.1) =
    some (.returned true)

/-- A turn of a post is the one that its tracker has for its session. -/
def RegisteredAt (d : Desk) (post : PostId) (i : Nat) : Prop :=
  d.Registered i ∧ ∃ t, d.turns[i]? = some t ∧ t.post = post

/-- A turn has delivered its outcome, and every message of the assistant in its session is closed.
-/
def Done (d : Desk) (i : Nat) : Prop :=
  ∃ t outcome, d.turns[i]? = some t ∧ t.stage = .ended outcome ∧
    ∀ ms, (d.store.store.listMessages d.now t.setup.sessionId).result = .ok ms →
      ∀ m ∈ ms, m.role = .assistant → m.ClosedIn ms

/-! ## Reading a desk by its trackers -/

theorem isBusy_eq (d : Desk) (post : PostId) :
    d.isBusy post = ((d.trackers[post]?).map (·.isBusy)).getD false := by
  simp only [isBusy, trackers, List.getElem?_map, Option.map_map]
  rfl

theorem activeSessions_eq (d : Desk) (post : PostId) :
    d.activeSessions post = ((d.trackers[post]?).map (·.activeSessions)).getD [] := by
  simp only [activeSessions, trackers, List.getElem?_map, Option.map_map]
  rfl

theorem registeredAt_iff : d.RegisteredAt post i ↔ ∃ t k, d.cards[i]? = some t ∧ t.post = post ∧
    d.trackers[post]? = some k ∧ k.owns t.setup.sessionId t.turn.generation := by
  constructor
  · rintro ⟨hr, t, ht, rfl⟩
    obtain ⟨t', k, ht', hk, howns⟩ := registered_iff.mp hr
    obtain rfl : t.card = t' := by simpa [cards, ht] using ht'
    exact ⟨_, k, ht', rfl, hk, howns⟩
  · rintro ⟨t, k, ht, rfl, hk, howns⟩
    refine ⟨registered_iff.mpr ⟨t, k, ht, hk, howns⟩, ?_⟩
    simp only [cards, List.getElem?_map, Option.map_eq_some_iff] at ht
    obtain ⟨t, ht, rfl⟩ := ht
    exact ⟨t, ht, rfl⟩

/-- A turn stays at its post. -/
theorem RegisteredAt.run (h : d.RegisteredAt post i) (moves : List DeskMove)
    (hr : (d.run moves).Registered i) : (d.run moves).RegisteredAt post i := by
  obtain ⟨t, -, ht, rfl, -⟩ := registeredAt_iff.mp h
  obtain ⟨stage, ht'⟩ := exists_card_run moves ht
  obtain ⟨t', k, hcard, hk, howns⟩ := registered_iff.mp hr
  obtain rfl := Option.some.inj (ht'.symm.trans hcard)
  exact registeredAt_iff.mpr ⟨_, k, hcard, rfl, hk, howns⟩

/-- An agent with a registered turn is busy. -/
theorem RegisteredAt.isBusy (h : d.RegisteredAt post i) : d.isBusy post = true := by
  obtain ⟨t, k, -, -, hk, howns⟩ := registeredAt_iff.mp h
  rw [isBusy_eq, hk]
  refine Bool.ne_false_iff.mp fun hidle => ?_
  obtain ⟨turn, hturn, -⟩ := Tracker.owns_iff.mp howns
  cases (Tracker.isBusy_eq_false_iff.mp hidle _).symm.trans hturn

/-! ## In time -/

/-- An agent that is stopped in time is idle at that moment. -/
theorem StopsInTime.idle {moves : List StopMove} (h : d.StopsInTime post moves) :
    (d.stopRun post moves).2.isBusy post = false := by
  obtain ⟨late, h⟩ := h
  generalize d.stopRun post moves = r at h ⊢
  obtain ⟨s, d'⟩ := r
  refine Bool.eq_false_iff.mpr fun hbusy => ?_
  cases s with
  | asked => simp [stepShutdown?, hbusy] at h
  | listing => simp [stepShutdown?] at h
  | returned inTime => simp [stepShutdown?] at h
  | canceling rest =>
    cases rest with
    | nil => cases late <;> simp [stepShutdown?, hbusy] at h
    | cons session rest => simp [stepShutdown?] at h

/-- Whoever stops an agent makes no moves but cancellations. -/
theorem exists_run (post : PostId) (moves : List StopMove) (s : Shutdown) (d : Desk) :
    ∃ ms, (moves.foldl (stopMove post) (s, d)).2 = d.run ms := by
  induction moves generalizing s d with
  | nil => exact ⟨[], rfl⟩
  | cons m moves ih =>
    have hone : ∃ ms, (stopMove post (s, d) m).2 = d.run ms := by
      cases m with
      | other m => exact ⟨[m], rfl⟩
      | own late =>
        cases s with
        | asked | listing | returned inTime => exact ⟨[], rfl⟩
        | canceling rest =>
          cases rest with
          | nil => exact ⟨[], rfl⟩
          | cons session rest => exact ⟨[.cancel post session], rfl⟩
    obtain ⟨ms, hms⟩ := hone
    obtain ⟨rest, hrest⟩ := ih (stopMove post (s, d) m).1 (stopMove post (s, d) m).2
    refine ⟨ms ++ rest, ?_⟩
    rw [run_append, ← hms]
    exact hrest

/-! ## By own steps alone -/

theorem cancelAll_eq (d : Desk) (post : PostId) :
    d.cancelAll post = (d.activeSessions post).foldl
      (fun d session => d.cancel post session) d := by
  unfold cancelAll activeSessions
  cases d.posts[post]? <;> rfl

theorem turns_cancel (d : Desk) (post : PostId) (session : String) :
    (d.cancel post session).turns = d.turns ∧ (d.cancel post session).store = d.store := by
  unfold cancel
  split <;> exact ⟨rfl, rfl⟩

/-- Some sessions are canceled one after the other. -/
theorem foldl_own (post : PostId) (rest : List String) (d : Desk) :
    (List.replicate rest.length (.own false)).foldl (stopMove post) (.canceling rest, d) =
      (.canceling [], rest.foldl (fun d session => d.cancel post session) d) := by
  induction rest generalizing d with
  | nil => rfl
  | cons session rest ih => exact ih (d.cancel post session)

/-- **Nothing else need happen**: if nobody else moves, all busy sessions are canceled, and the desk
is as it would be behind `Desk.cancelAll`. -/
theorem stopRun_own (h : d.isBusy post = true) :
    d.stopRun post (List.replicate ((d.activeSessions post).length + 2) (.own false)) =
      (.canceling [], d.cancelAll post) := by
  have hfirst : stopMove post (.asked, d) (.own false) = (.listing, d) := by
    simp [stopMove, stepShutdown?, h]
  rw [stopRun, List.replicate_succ, List.replicate_succ, List.foldl_cons, hfirst, cancelAll_eq]
  exact foldl_own post (d.activeSessions post) d

/-- Behind the cancellation of some sessions, just the turns of others are registered. -/
theorem turnOf?_foldl_cancel (sessions : List String) {k : Tracker}
    (hk : d.trackers[post]? = some k) :
    ∃ k', (sessions.foldl (fun d session => d.cancel post session) d).trackers[post]? = some k' ∧
      ∀ s, k'.turnOf? s = if s ∈ sessions then none else k.turnOf? s := by
  induction sessions generalizing d k with
  | nil => exact ⟨k, hk, fun s => by simp⟩
  | cons session sessions ih =>
    have hnext : (d.cancel post session).trackers[post]? =
        some (k.cancel d.tokens session).1 := by
      simp [trackers_cancel, hk]
    obtain ⟨k', hk', hturn⟩ := ih hnext
    refine ⟨k', hk', fun s => ?_⟩
    rw [hturn, Tracker.turnOf?_cancel]
    by_cases hs : s = session <;> by_cases hmem : s ∈ sessions <;> simp [hs, hmem]

/-- Once all busy sessions are canceled, the agent is idle. -/
theorem isBusy_cancelAll (d : Desk) (post : PostId) : (d.cancelAll post).isBusy post = false := by
  cases hk : d.trackers[post]? with
  | none =>
    have hnone : d.posts[post]? = none := by simpa [trackers] using hk
    simp [cancelAll, hnone, isBusy]
  | some k =>
    rw [cancelAll_eq, isBusy_eq, activeSessions_eq, hk]
    obtain ⟨k', hk', hturn⟩ := turnOf?_foldl_cancel k.activeSessions hk
    simp only [Option.map_some, Option.getD_some, hk']
    refine Tracker.isBusy_eq_false_iff.mpr fun s => ?_
    rw [hturn]
    split
    · rfl
    · rename_i hs
      exact Table.get?_eq_none_iff.mpr hs

theorem turns_cancelAll (d : Desk) (post : PostId) :
    (d.cancelAll post).turns = d.turns ∧ (d.cancelAll post).store = d.store := by
  rw [cancelAll_eq]
  generalize d.activeSessions post = sessions
  induction sessions generalizing d with
  | nil => exact ⟨rfl, rfl⟩
  | cons session sessions ih =>
    obtain ⟨hturns, hstore⟩ := ih (d.cancel post session)
    exact ⟨hturns.trans (d.turns_cancel post session).1,
      hstore.trans (d.turns_cancel post session).2⟩

/-- **An agent may be found idle before anything has happened on the desk**: no turn has made a
step, and the store is as it was. -/
theorem exists_stopsInTime (d : Desk) (post : PostId) : ∃ moves, d.StopsInTime post moves ∧
    (d.stopRun post moves).2.turns = d.turns ∧ (d.stopRun post moves).2.store = d.store := by
  cases hbusy : d.isBusy post with
  | false =>
    refine ⟨[], ⟨false, ?_⟩, rfl, rfl⟩
    simp [stopRun, stepShutdown?, hbusy]
  | true =>
    obtain ⟨hturns, hstore⟩ := d.turns_cancelAll post
    refine ⟨List.replicate ((d.activeSessions post).length + 2) (.own false), ⟨false, ?_⟩, ?_, ?_⟩
    · rw [stopRun_own hbusy]
      simp [stepShutdown?, isBusy_cancelAll]
    · rw [stopRun_own hbusy, hturns]
    · rw [stopRun_own hbusy, hstore]

/-! ## What is certain -/

section

variable (roster : Roster) (sources : List Source) (store : WatchedStore) (bench : Workbench)

/-- **What the stopping of an agent waits for.** Take an agent at any moment of any run, and stop it
amid whatever else happens. If it is found idle in time, no turn that was registered at the
beginning is so any more, and each is stopped: its course is over, or its token is canceled. But the
agent may be found idle before any turn has made a step. So it is certain that all these turns have
delivered their outcomes and closed their messages exactly if there were none. -/
theorem stopped_done_iff (before : List DeskMove) (post : PostId) (d : Desk)
    (hd : d = (openOn roster sources store bench).run before) :
    (∀ moves, d.StopsInTime post moves → ∀ i, d.RegisteredAt post i →
      ¬ (d.stopRun post moves).2.Registered i ∧ (d.stopRun post moves).2.Stopped i) ∧
    (∃ moves, d.StopsInTime post moves ∧ (d.stopRun post moves).2.turns = d.turns ∧
      (d.stopRun post moves).2.store = d.store) ∧
    ((∀ moves, d.StopsInTime post moves → ∀ i, d.RegisteredAt post i →
      (d.stopRun post moves).2.Done i) ↔ ∀ i, ¬ d.RegisteredAt post i) := by
  have hopen := accounted_openOn roster sources store bench
  have haccounted : d.Accounted := hd ▸ accounted_run roster sources store bench before
  have henrolled := (enrolled_openOn roster sources store bench).run hopen before
  rw [← hd] at henrolled
  have hentered : d.Entered := hd ▸ (entered_openOn roster sources store bench).run hopen before
  refine ⟨fun moves hstops i hi => ?_, d.exists_stopsInTime post, fun hall i hi => ?_,
    fun hnone moves _ i hi => absurd hi (hnone i)⟩
  · obtain ⟨ms, hms⟩ := exists_run post moves .asked d
    have hidle := hstops.idle
    have hdesk : (d.stopRun post moves).2 = d.run ms := hms
    rw [hdesk] at hidle ⊢
    have hgone : ¬ (d.run ms).Registered i := fun hr =>
      Bool.false_ne_true (hidle.symm.trans (hi.run ms hr).isBusy)
    exact ⟨hgone, (registered_run haccounted henrolled hentered ms (.inl hi.1)).resolve_left hgone⟩
  · obtain ⟨moves, hstops, hturns, -⟩ := d.exists_stopsInTime post
    obtain ⟨t, outcome, ht, hstage, -⟩ := hall moves hstops i hi
    obtain ⟨t', k, hcard, rfl, hk, howns⟩ := registeredAt_iff.mp hi
    obtain rfl : t.card = t' := by simpa [cards, ← hturns, ht] using hcard
    rcases hentered.stays i _ k hcard hk howns with ⟨p, hp⟩ | ⟨outcome', hout⟩
    · cases hstage.symm.trans hp
    · cases hstage.symm.trans hout

end

/-- An agent that is stopped while the tool of its turn waits. -/
theorem exists_stopped_not_done :
    ∃ (roster : Roster) (sources : List Source) (store : WatchedStore) (bench : Workbench)
      (before : List DeskMove) (post : PostId) (d : Desk),
      d = (openOn roster sources store bench).run before ∧
      ¬ ∀ moves, d.StopsInTime post moves → ∀ i, d.RegisteredAt post i →
        (d.stopRun post moves).2.Done i := by
  refine ⟨⟨[patientAgent], [], 4⟩, [.script (.ofTurns [callsTool])], .ofStore (.memory .empty) [],
    ⟨default, default, default⟩, [.forkToken none, .submit 0 0 "s" "hello" []] ++
      List.replicate 12 (.step (.turn 0)) ++ [.step (.toolOf 0)], 0, _, rfl, ?_⟩
  obtain ⟨-, -, hiff⟩ := stopped_done_iff _ _ _ _ _ 0 _ rfl
  rw [hiff]
  intro hnone
  exact hnone 0 ⟨⟨_, _, rfl, rfl, by decide +kernel⟩, _, rfl, rfl⟩

end Desk

end AgentDesk
