import AgentDesk.Proofs.Desk.Cancellation
import AgentDesk.Proofs.Desk.Queues
/-!
# Who takes the prompts that wait

Prompts that wait for a session are meant for the turn that is registered there. A turn takes them
at two places. At the end of an answer it says who it is, and a turn that is not registered any more
gets nothing. Behind the results of tools it only names its session, and gets what waits there even
if its own registration is gone. A turn at work is registered from its start on until its session is
canceled; a turn that still drains the queue after that takes prompts that came later.

## Main definitions

* `Desk.Takes`, `Desk.Registered` — the next step of a turn takes prompts; it is registered.
* `Desk.Drains` — its next step takes prompts behind the results of tools.
* `Desk.revokedIn` — the session of a turn is canceled in some moves.
-/

namespace AgentDesk

namespace Desk

/-- The next step of a turn takes prompts that wait. -/
def Takes (d : Desk) (i : Nat) : Prop :=
  ∃ e, d.exchange? i = some e ∧ e.request.taken e.reply ≠ 0

/-- A turn is the one that its tracker has for its session. -/
def Registered (d : Desk) (i : Nat) : Prop :=
  ∃ t p, d.turns[i]? = some t ∧ d.posts[t.post]? = some p ∧
    p.tracker.owns t.setup.sessionId t.turn.generation

/-- A turn has recorded the results of its tools, and prompts wait for its session. -/
def Drains (d : Desk) (i : Nat) : Prop :=
  ∃ t p, d.turns[i]? = some t ∧ d.posts[t.post]? = some p ∧
    (∃ history, t.stage = .working (.draining history)) ∧
      p.tracker.queueOf t.setup.sessionId ≠ []

/-- A move cancels the session of a turn at the post of the turn. -/
def Revokes (d : Desk) (i : Nat) (m : DeskMove) : Prop :=
  ∃ t, d.turns[i]? = some t ∧ m = .cancel t.post t.setup.sessionId

/-- One of some moves cancels the session of a turn that is there. -/
def revokedIn (i : Nat) : Desk → List DeskMove → Prop
  | _, [] => False
  | d, m :: moves => d.Revokes i m ∨ revokedIn i (d.move m) moves

end Desk

/-! ## What requests do to a registration -/

theorem Tracker.owns_track_of_ne {t : Tracker} {s s' : String} {g g' : Nat} (hne : g' ≠ g)
    (r : TurnRequest) : (r.track s g t).owns s' g' ↔ t.owns s' g' := by
  cases r with
  | finishOrTake => exact owns_finishOrTake_of_ne hne
  | _ => exact .rfl

/-- A turn that goes on does not change whether it is registered. -/
theorem TurnPhase.owns_track_of_next {setup : TurnSetup} {now : Timestamp} {p p' : TurnPhase}
    {reply : (p.request setup).Reply} {session : String} {generation : Nat} {k : Tracker}
    (h : p.resume setup now reply = .next p')
    (hp : (p.request setup).Prompted session generation (some k) reply) :
    ((p.request setup).track session generation k).owns session generation ↔
      k.owns session generation := by
  cases p with
  | taking history m =>
    obtain rfl : reply = (k.finishOrTake session generation).1 := hp
    have hsome : (k.finishOrTake session generation).1 ≠ [] := by
      intro hnil
      simp only [resume, hnil, List.isEmpty_nil, if_true] at h
      cases h
    obtain ⟨hbefore, hafter⟩ := Tracker.owns_of_finishOrTake hsome
    exact iff_of_true hafter hbefore
  | _ => exact .rfl

namespace Desk

variable {d d' : Desk} {i : Nat}

/-! ## Reading a desk by its cards -/

/-- What is said of a turn and its tracker can be said of the card of the turn. -/
theorem exists_card_iff {P : TurnTask → Tracker → Prop} (hP : ∀ t k, P t.card k ↔ P t k) :
    (∃ t p, d.turns[i]? = some t ∧ d.posts[t.post]? = some p ∧ P t p.tracker) ↔
      ∃ t k, d.cards[i]? = some t ∧ d.trackers[t.post]? = some k ∧ P t k := by
  constructor
  · rintro ⟨t, p, ht, hp, h⟩
    exact ⟨t.card, p.tracker, by simp [cards, ht], by simp [trackers, TurnTask.card, hp],
      (hP t p.tracker).mpr h⟩
  · rintro ⟨t, k, ht, hk, h⟩
    simp only [cards, List.getElem?_map, Option.map_eq_some_iff] at ht
    obtain ⟨t, ht, rfl⟩ := ht
    simp only [trackers, List.getElem?_map, Option.map_eq_some_iff] at hk
    obtain ⟨p, hp, rfl⟩ := hk
    exact ⟨t, p, ht, hp, (hP t p.tracker).mp h⟩

theorem registered_iff : d.Registered i ↔ ∃ t k, d.cards[i]? = some t ∧
    d.trackers[t.post]? = some k ∧ k.owns t.setup.sessionId t.turn.generation :=
  exists_card_iff (P := fun t k => k.owns t.setup.sessionId t.turn.generation) fun _ _ => .rfl

theorem drains_iff : d.Drains i ↔ ∃ t k, d.cards[i]? = some t ∧ d.trackers[t.post]? = some k ∧
    (∃ history, t.stage = .working (.draining history)) ∧ k.queueOf t.setup.sessionId ≠ [] :=
  exists_card_iff (P := fun t k => (∃ history, t.stage = .working (.draining history)) ∧
    k.queueOf t.setup.sessionId ≠ []) fun _ _ => .rfl

theorem revokes_iff {m : DeskMove} : d.Revokes i m ↔ ∃ t, d.cards[i]? = some t ∧
    m = .cancel t.post t.setup.sessionId := by
  constructor
  · rintro ⟨t, ht, hm⟩
    exact ⟨t.card, by simp [cards, ht], hm⟩
  · rintro ⟨t, ht, hm⟩
    simp only [cards, List.getElem?_map, Option.map_eq_some_iff] at ht
    obtain ⟨t, ht, rfl⟩ := ht
    exact ⟨t, ht, hm⟩

theorem revokes_iff_of_card {m : DeskMove} {t : TurnTask} (ht : d.cards[i]? = some t) :
    d.Revokes i m ↔ m = .cancel t.post t.setup.sessionId := by
  rw [revokes_iff]
  constructor
  · rintro ⟨t', ht', hm⟩
    obtain rfl := Option.some.inj (ht.symm.trans ht')
    exact hm
  · exact fun hm => ⟨t, ht, hm⟩

/-- Only a turn that is there loses its registration. -/
theorem Revokes.lt {m : DeskMove} (h : d.Revokes i m) : i < d.cards.length := by
  obtain ⟨t, ht, -⟩ := revokes_iff.mp h
  exact (List.getElem?_eq_some_iff.mp ht).1

/-! ## Moves that are no step of a turn -/

/-- What a move that is no step of a turn does to registrations: those whose sessions it cancels are
gone, all others stay, and a turn that starts is registered under a generation and with a token that
are new. -/
structure Keeps (d : Desk) (m : DeskMove) (d' : Desk) : Prop where
  posts : d'.trackers.length = d.trackers.length
  owns : ∀ (j : PostId) (k' : Tracker), d'.trackers[j]? = some k' →
    ∃ k, d.trackers[j]? = some k ∧ ∀ s g, g ≤ k.lastGeneration →
      (k'.owns s g ↔ k.owns s g ∧ m ≠ .cancel j s)
  cards : d'.cards = d.cards ∨ ∃ task k k', d'.cards = d.cards ++ [task] ∧
    d.trackers[task.post]? = some k ∧ k.lastGeneration < task.turn.generation ∧
      d'.trackers[task.post]? = some k' ∧ k'.turnOf? task.setup.sessionId = some task.turn ∧
      task.stage = .working .listing ∧ task.turn.token < d'.tokens.nodes.length

namespace Keeps

variable {m : DeskMove}

/-- The tracker of one post makes a move that cancels nothing, or the move is a cancellation. -/
theorem ofModify {post : PostId} {f : Tracker → Tracker}
    (htrackers : d'.trackers = d.trackers.modify post f)
    (hother : ∀ j s, j ≠ post → m ≠ .cancel j s)
    (howns : ∀ k s g, g ≤ k.lastGeneration →
      ((f k).owns s g ↔ k.owns s g ∧ m ≠ .cancel post s)) (j : PostId) (k' : Tracker)
    (hk' : d'.trackers[j]? = some k') :
    ∃ k, d.trackers[j]? = some k ∧ ∀ s g, g ≤ k.lastGeneration →
      (k'.owns s g ↔ k.owns s g ∧ m ≠ .cancel j s) := by
  obtain ⟨k, hk, ⟨rfl, rfl⟩ | ⟨hne, rfl⟩⟩ := tracker_cases htrackers hk'
  · exact ⟨k, hk, howns k⟩
  · exact ⟨k', hk, fun s g _ => (and_iff_left (hother j s hne)).symm⟩

theorem ofAside (hm : ∀ j s, m ≠ .cancel j s) (h : Aside d d') : Keeps d m d' := by
  refine ⟨congrArg List.length h.trackers, fun j k' hk' => ⟨k', h.trackers ▸ hk', fun s g _ => ?_⟩,
    .inl h.cards⟩
  exact (and_iff_left (hm j s)).symm

theorem trans_aside {d'' : Desk} (h : Keeps d m d') (h' : Aside d' d'') : Keeps d m d'' := by
  refine ⟨(congrArg List.length h'.trackers).trans h.posts, ?_, ?_⟩
  · rw [h'.trackers]
    exact h.owns
  · rw [h'.cards, h'.trackers]
    refine h.cards.imp_right ?_
    rintro ⟨task, k, k', hcards, hk, hgeneration, hk', hturn, hstage, htoken⟩
    exact ⟨task, k, k', hcards, hk, hgeneration, hk', hturn, hstage,
      Nat.lt_of_lt_of_le htoken h'.tokens.length_le⟩

theorem ofSubmit {post : PostId} {parent : TokenId} {session prompt : String}
    {files : List Binary} {r : Submission} (hm : ∀ j s, m ≠ .cancel j s)
    (h : d.submit post parent session prompt files = some (r, d')) : Keeps d m d' := by
  obtain ⟨k, hk, htrackers, htokens, hcards⟩ := submit_cases h
  refine ⟨by rw [htrackers, List.length_modify], ?_, ?_⟩
  · refine ofModify htrackers (fun j s _ => hm j s) fun k s g hg => ?_
    rw [and_iff_left (hm post s)]
    exact ⟨(k.moved_submit d.tokens session parent prompt).owns hg,
      fun ho => Tracker.owns_submit ho ..⟩
  · rcases hcards with hcards | ⟨turn, setup, rfl, hstarted, hcards⟩
    · exact .inl hcards
    · obtain ⟨hturn, hgeneration, htoken⟩ := Tracker.turnOf?_started hstarted
      exact .inr ⟨_, k, _, hcards, hk, hgeneration, by simp [htrackers, hk], hturn, rfl,
        htokens ▸ htoken⟩

theorem ofDelegates (hm : ∀ j s, m ≠ .cancel j s) (h : Delegates d d') : Keeps d m d' := by
  cases h with
  | aside same => exact .ofAside hm same
  | submits post parent session prompt files r d₁ submitted rest =>
    exact (ofSubmit hm submitted).trans_aside rest

end Keeps

theorem keeps_cancel (d : Desk) (post : PostId) (session : String) :
    Keeps d (.cancel post session) (d.cancel post session) := by
  refine ⟨by rw [trackers_cancel, List.length_modify],
    Keeps.ofModify (d.trackers_cancel post session) ?_ fun k s g _ => ?_, .inl ?_⟩
  · rintro j s hne ⟨⟩
    exact hne rfl
  · rw [Tracker.owns_cancel_iff, and_comm]
    refine and_congr_right' (not_congr ⟨?_, ?_⟩)
    · rintro rfl
      rfl
    · rintro ⟨⟩
      rfl
  · unfold cancel
    split <;> rfl

/-- **A move that is no step of a turn.** -/
theorem keeps_move (d : Desk) {m : DeskMove} (hm : ∀ i, m ≠ .step (.turn i)) :
    Keeps d m (d.move m) := by
  cases m with
  | submit post parent session prompt files =>
    simp only [move]
    split
    · rename_i hsubmit
      exact .ofSubmit (fun _ _ h => by cases h) hsubmit
    · exact .ofAside (fun _ _ h => by cases h) (.refl d)
  | cancel post session => exact d.keeps_cancel post session
  | clearQueue post session =>
    have htrackers := d.trackers_clearQueue post session
    refine ⟨(congrArg List.length htrackers).trans (List.length_modify ..),
      Keeps.ofModify htrackers (fun _ _ _ h => by cases h) fun k s g _ => ?_, .inl rfl⟩
    exact (and_iff_left fun h => by cases h).symm
  | cancelToken token => exact .ofAside (fun _ _ h => by cases h) (d.aside_cancelToken token)
  | forkToken parent => exact .ofAside (fun _ _ h => by cases h) (d.aside_forkToken parent)
  | release gate => exact .ofAside (fun _ _ h => by cases h) ⟨rfl, rfl, .refl _⟩
  | ask session body call =>
    exact .ofAside (fun _ _ h => by cases h) ⟨rfl, rfl, d.tokens.later_fork none⟩
  | step task =>
    exact .ofDelegates (fun _ _ h => by cases h) (delegates_move fun i hi => hm i (hi ▸ rfl))

/-! ## Who is registered -/

/-- What is known of registrations, given the turns whose sessions were canceled: the turns of a
post have different generations, and a turn at work is registered unless its session was
canceled. -/
structure Enrolled (d : Desk) (revoked : Nat → Prop) : Prop where
  there : ∀ i, revoked i → i < d.cards.length
  distinct : ∀ (i j : Nat) (t t' : TurnTask), d.cards[i]? = some t → d.cards[j]? = some t' →
    t.post = t'.post → t.turn.generation = t'.turn.generation → i = j
  registered : ∀ (i : Nat) (t : TurnTask) (p : TurnPhase) (k : Tracker), d.cards[i]? = some t →
    t.stage = .working p → d.trackers[t.post]? = some k →
      (k.owns t.setup.sessionId t.turn.generation ↔ ¬ revoked i)

theorem enrolled_openOn (roster : Roster) (sources : List Source) (store : WatchedStore)
    (bench : Workbench) : (openOn roster sources store bench).Enrolled fun _ => False := by
  refine ⟨fun i hi => hi.elim, fun i j t t' ht => ?_, fun i t p k ht => ?_⟩ <;>
    simp [cards_openOn] at ht

namespace Enrolled

variable {revoked : Nat → Prop}

/-- A turn that was there before a move is registered as before, unless the move cancels its
session. -/
theorem registered_keeps {m : DeskMove} {t : TurnTask} {p : TurnPhase} {k' : Tracker}
    (ha : d.Accounted) (h : d.Enrolled revoked) (hk : Keeps d m d') (ht : d.cards[i]? = some t)
    (hstage : t.stage = .working p) (hk' : d'.trackers[t.post]? = some k') :
    k'.owns t.setup.sessionId t.turn.generation ↔ ¬ (revoked i ∨ d.Revokes i m) := by
  obtain ⟨k, hkt, howns⟩ := hk.owns t.post k' hk'
  rw [howns _ _ (ha.generation i t k ht hkt), h.registered i t p k ht hstage hkt,
    revokes_iff_of_card ht, not_or]

/-- A move that is no step of a turn. -/
theorem keeps {m : DeskMove} (ha : d.Accounted) (h : d.Enrolled revoked) (hk : Keeps d m d') :
    d'.Enrolled fun i => revoked i ∨ d.Revokes i m := by
  have hlt : ∀ i, revoked i ∨ d.Revokes i m → i < d.cards.length :=
    fun i hi => hi.elim (h.there i) Revokes.lt
  rcases hk.cards with hcards | ⟨task, k, k', hcards, hkt, hgeneration, hk', hturn, -⟩
  · refine ⟨fun i hi => hcards ▸ hlt i hi, hcards ▸ h.distinct, fun i t p k ht hstage hk' => ?_⟩
    exact h.registered_keeps ha hk (hcards ▸ ht) hstage hk'
  · -- The turn that starts is of a generation that no turn of its post had before.
    have hnew : ∀ (i : Nat) (t : TurnTask), d.cards[i]? = some t → t.post = task.post →
        t.turn.generation ≠ task.turn.generation := by
      intro i t ht hpost
      exact Nat.ne_of_lt (Nat.lt_of_le_of_lt (ha.generation i t k ht (hpost ▸ hkt)) hgeneration)
    refine ⟨fun i hi => ?_, fun i j t t' ht ht' hpost hgen => ?_,
      fun i t p k₁ ht hstage hk₁ => ?_⟩
    · rw [hcards, List.length_append]
      exact Nat.lt_add_right _ (hlt i hi)
    · rcases card_append_cases hcards ht with ht | ⟨rfl, rfl⟩ <;>
        rcases card_append_cases hcards ht' with ht' | ⟨rfl, rfl⟩
      · exact h.distinct i j t t' ht ht' hpost hgen
      · exact absurd hgen (hnew i t ht hpost)
      · exact absurd hgen.symm (hnew j t' ht' hpost.symm)
      · rfl
    · rcases card_append_cases hcards ht with ht | ⟨rfl, rfl⟩
      · exact h.registered_keeps ha hk ht hstage hk₁
      · obtain rfl := Option.some.inj (hk'.symm.trans hk₁)
        exact iff_of_true (Tracker.owns_iff.mpr ⟨_, hturn, rfl⟩) fun hi =>
          Nat.lt_irrefl _ (hlt _ hi)

/-- A step of a turn that is at work: the turn does not change the registrations of others, and it
remains to say that its own is as before. -/
theorem set {i : Nat} {t : TurnTask} {stage : TurnStage} {f : Tracker → Tracker}
    (h : d.Enrolled revoked) (ht : d.cards[i]? = some t)
    (hcards : d'.cards = d.cards.set i { t with stage := stage })
    (htrackers : d'.trackers = d.trackers.modify t.post f)
    (hother : ∀ k s g, g ≠ t.turn.generation → ((f k).owns s g ↔ k.owns s g))
    (hself : ∀ p' k, stage = .working p' → d.trackers[t.post]? = some k →
      (∃ p, t.stage = .working p) ∧ ((f k).owns t.setup.sessionId t.turn.generation ↔
        k.owns t.setup.sessionId t.turn.generation)) : d'.Enrolled revoked := by
  -- The place, the post and the generation of a turn stay the same.
  have hbefore : ∀ (j : Nat) (t' : TurnTask), d'.cards[j]? = some t' →
      ∃ t₀, d.cards[j]? = some t₀ ∧ t₀.post = t'.post ∧
        t₀.turn.generation = t'.turn.generation := by
    intro j t' ht'
    rcases card_set_cases hcards ht' with ⟨-, hj⟩ | ⟨rfl, rfl⟩
    · exact ⟨t', hj, rfl, rfl⟩
    · exact ⟨t, ht, rfl, rfl⟩
  refine ⟨fun j hj => ?_, fun j j' t' t'' ht' ht'' hpost hgen => ?_,
    fun j t' p' k' ht' hstage hk' => ?_⟩
  · rw [hcards, List.length_set]
    exact h.there j hj
  · obtain ⟨t₁, ht₁, hpost₁, hgen₁⟩ := hbefore j t' ht'
    obtain ⟨t₂, ht₂, hpost₂, hgen₂⟩ := hbefore j' t'' ht''
    exact h.distinct j j' t₁ t₂ ht₁ ht₂ (hpost₁.trans (hpost.trans hpost₂.symm))
      (hgen₁.trans (hgen.trans hgen₂.symm))
  · rcases card_set_cases hcards ht' with ⟨hne, hj⟩ | ⟨rfl, rfl⟩
    · obtain ⟨k, hk, ⟨hpost, rfl⟩ | ⟨-, rfl⟩⟩ := tracker_cases htrackers hk'
      · rw [hother k _ _ fun hgen => hne (h.distinct j i t' t hj ht hpost hgen)]
        exact h.registered j t' p' k hj hstage hk
      · exact h.registered j t' p' k' hj hstage hk
    · obtain ⟨k, hk, ⟨-, rfl⟩ | ⟨hne, -⟩⟩ := tracker_cases htrackers hk'
      · obtain ⟨⟨p, hp⟩, hsame⟩ := hself p' k hstage hk
        exact hsame.trans (h.registered j t p k ht hp hk)
      · exact absurd rfl hne

/-- **A step of a turn.** -/
theorem advances (h : d.Enrolled revoked) (hs : Advances d i d') : d'.Enrolled revoked := by
  cases hs with
  | rests same => exact same ▸ h
  | works t p now reply card stage exchange cards trackers tokens halted honest prompted =>
    refine h.set card cards trackers (fun k s g hne => Tracker.owns_track_of_ne hne _) ?_
    intro p' k hworking hk
    refine ⟨⟨p, stage⟩, ?_⟩
    cases hprogress : p.resume t.setup now reply with
    | next p'' => exact TurnPhase.owns_track_of_next hprogress (hk ▸ prompted)
    | stop outcome =>
      rw [hprogress] at hworking
      cases hworking
  | leaves t outcome card stage exchange cards trackers tokens =>
    refine h.set card cards trackers (fun k s g hne => Tracker.owns_finish_of_ne hne) ?_
    rintro p' k ⟨⟩
  | delivers t outcome card stage exchange cards trackers tokens =>
    refine h.set card cards (trackers.trans (List.modify_id ..).symm) (fun k s g _ => .rfl) ?_
    rintro p' k ⟨⟩

/-- **One move.** -/
theorem move (ha : d.Accounted) (h : d.Enrolled revoked) (m : DeskMove) :
    (d.move m).Enrolled fun i => revoked i ∨ d.Revokes i m := by
  by_cases hm : ∃ j, m = .step (.turn j)
  · obtain ⟨j, rfl⟩ := hm
    have hsame : (fun i => revoked i ∨ d.Revokes i (.step (.turn j))) = revoked := by
      funext i
      refine propext (or_iff_left ?_)
      rintro ⟨t, -, ⟨⟩⟩
    rw [hsame]
    exact h.advances (d.advances_move j)
  · exact h.keeps ha (d.keeps_move fun j hj => hm ⟨j, hj⟩)

/-- **Any moves.** -/
theorem run (ha : d.Accounted) (h : d.Enrolled revoked) (moves : List DeskMove) :
    (d.run moves).Enrolled fun i => revoked i ∨ revokedIn i d moves := by
  induction moves generalizing d revoked with
  | nil =>
    refine (congrArg d.Enrolled ?_).mp h
    funext i
    exact propext (or_iff_left fun hi => hi).symm
  | cons m moves ih =>
    refine (congrArg (d.run (m :: moves)).Enrolled ?_).mp (ih (accounted_move ha m) (h.move ha m))
    funext i
    exact propext or_assoc

end Enrolled

/-! ## Who takes prompts -/

/-- A turn that drains its queue takes what waits there. -/
theorem Drains.takes (h : d.Drains i) : d.Takes i := by
  obtain ⟨t, p, ht, hp, ⟨history, hstage⟩, hqueue⟩ := h
  refine ⟨⟨.drainQueue, p.tracker.queueOf t.setup.sessionId⟩, ?_, ?_⟩
  · simp [exchange?, ht, hstage, TurnPhase.request, answer?, useTracker, hp, Tracker.drain]
  · exact fun hlen => hqueue (List.length_eq_zero_iff.mp hlen)

/-- **A turn that takes prompts is registered**, unless it drains a queue behind the cancellation of
its session. -/
theorem registered_iff_of_takes {revoked : Nat → Prop} (h : d.Enrolled revoked)
    (htakes : d.Takes i) : d.Registered i ↔ ¬ (d.Drains i ∧ revoked i) := by
  obtain ⟨e, hexchange, htaken⟩ := htakes
  cases d.advances_move i with
  | rests _ exchange => cases exchange.symm.trans hexchange
  | leaves _ _ _ _ exchange => cases exchange.symm.trans hexchange
  | delivers _ _ _ _ exchange => cases exchange.symm.trans hexchange
  | works t p now reply card stage exchange cards trackers tokens halted honest prompted =>
    obtain rfl := Option.some.inj (exchange.symm.trans hexchange)
    cases hk : d.trackers[t.post]? with
    | none => exact absurd (TurnRequest.taken_of_none (hk ▸ prompted)) htaken
    | some k =>
      rw [hk] at prompted
      have hregistered : d.Registered i ↔ ¬ revoked i := by
        rw [← h.registered i t p k card stage hk, registered_iff]
        constructor
        · rintro ⟨t', k', ht', hk', howns⟩
          obtain rfl := Option.some.inj (card.symm.trans ht')
          obtain rfl := Option.some.inj (hk.symm.trans hk')
          exact howns
        · exact fun howns => ⟨t, k, card, hk, howns⟩
      rw [hregistered, not_and]
      refine ⟨fun hnot _ => hnot, fun hdrains hrevoked => ?_⟩
      -- Of the two requests for prompts, the one at the end of an answer is for registered turns.
      cases p with
      | draining history =>
        obtain rfl : reply = k.queueOf t.setup.sessionId := prompted
        have hqueue : k.queueOf t.setup.sessionId ≠ [] :=
          fun hnil => htaken (List.length_eq_zero_iff.mpr hnil)
        exact hdrains (drains_iff.mpr ⟨t, k, card, hk, ⟨history, stage⟩, hqueue⟩) hrevoked
      | taking history m =>
        obtain rfl : reply = (k.finishOrTake t.setup.sessionId t.turn.generation).1 := prompted
        have howns := (Tracker.owns_of_finishOrTake fun hnil =>
          htaken (List.length_eq_zero_iff.mpr hnil)).1
        exact (h.registered i t _ k card stage hk).mp howns hrevoked
      | _ => exact htaken rfl

section

variable (roster : Roster) (sources : List Source) (store : WatchedStore) (bench : Workbench)

/-- **When only registered turns take prompts.** Whatever is asked of a desk and in whatever order
its tasks make their steps: every turn that takes prompts is the registered one at that moment,
exactly if no turn drains a queue behind the results of its tools after its session was canceled. -/
theorem takers_registered_iff (moves : List DeskMove) :
    (∀ n i, moves[n]? = some (.step (.turn i)) →
      ((openOn roster sources store bench).run (moves.take n)).Takes i →
        ((openOn roster sources store bench).run (moves.take n)).Registered i) ↔
      ∀ n i, moves[n]? = some (.step (.turn i)) →
        ((openOn roster sources store bench).run (moves.take n)).Drains i →
          ¬ revokedIn i (openOn roster sources store bench) (moves.take n) := by
  have henrolled : ∀ n, ((openOn roster sources store bench).run (moves.take n)).Enrolled
      fun i => False ∨ revokedIn i (openOn roster sources store bench) (moves.take n) :=
    fun n => (enrolled_openOn roster sources store bench).run
      (accounted_openOn roster sources store bench) (moves.take n)
  constructor
  · intro hall n i hm hdrains hrevoked
    have hregistered := hall n i hm hdrains.takes
    exact (registered_iff_of_takes (henrolled n) hdrains.takes).mp hregistered
      ⟨hdrains, .inr hrevoked⟩
  · intro hnone n i hm htakes
    refine (registered_iff_of_takes (henrolled n) htakes).mpr ?_
    rintro ⟨hdrains, hfalse | hrevoked⟩
    · exact hfalse
    · exact hnone n i hm hdrains hrevoked

end

/-- A move that cancels the session of a turn counts at every later place. -/
theorem revokedIn_take {m : DeskMove} {moves : List DeskMove} {c n : Nat} (hc : c < n)
    (hm : moves[c]? = some m) (h : (d.run (moves.take c)).Revokes i m) :
    revokedIn i d (moves.take n) := by
  induction moves generalizing d c n with
  | nil => cases hm
  | cons first moves ih =>
    cases n with
    | zero => exact absurd hc (Nat.not_lt_zero c)
    | succ n =>
      cases c with
      | zero =>
        obtain rfl := Option.some.inj hm
        exact .inl h
      | succ c => exact .inr (ih (Nat.lt_of_succ_lt_succ hc) hm h)

/-- A turn that calls for a tool and is canceled before the result is recorded takes the prompt
that waits for the turn behind it. -/
theorem exists_taker_not_registered :
    ∃ (roster : Roster) (sources : List Source) (store : WatchedStore) (bench : Workbench)
      (moves : List DeskMove), ¬ ∀ n i, moves[n]? = some (.step (.turn i)) →
        ((openOn roster sources store bench).run (moves.take n)).Takes i →
          ((openOn roster sources store bench).run (moves.take n)).Registered i := by
  refine ⟨⟨[briefAgent], [], 4⟩, [.script (.ofTurns [callsTool])], .ofStore (.memory .empty) [],
    ⟨default, default, default⟩, [.forkToken none, .submit 0 0 "s" "one" []] ++
      List.replicate 12 (.step (.turn 0)) ++ [.cancel 0 "s", .submit 0 0 "s" "two" [],
        .submit 0 0 "s" "three" [], .step (.turn 0), .step (.turn 0)], ?_⟩
  rw [takers_registered_iff]
  intro hnone
  refine hnone 18 0 rfl ⟨_, _, rfl, rfl, ⟨_, rfl⟩, by decide +kernel⟩ ?_
  exact revokedIn_take (by decide : 14 < 18) rfl ⟨_, rfl, rfl⟩

end Desk

end AgentDesk
