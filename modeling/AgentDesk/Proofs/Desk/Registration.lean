import AgentDesk.Proofs.Desk.Takers
import AgentDesk.Proofs.Tracker.Tokens
/-!
# What becomes of a registered turn

A turn that is registered has its own entry in its tracker, with its own token, and its course is
not over for longer than one step. So there are only two ways for it to lose its registration: its
course ends, or its session is canceled, and then so is its token.

## Main definitions

* `Desk.Entered` — what is known of the entries of turns.
* `Desk.Stopped` — the course of a turn is over, or its token is canceled.
-/

namespace AgentDesk

/-- A turn that leaves its tracker is not registered any more. -/
theorem Tracker.not_owns_finish {t : Tracker} {s : String} {g : Nat} :
    ¬ (t.finish s g).2.owns s g := by
  rw [owns_iff, turnOf?_finish]
  by_cases ho : t.owns s g
  · simp [ho]
  · simp [ho, ← owns_iff]

namespace Desk

variable {d d' : Desk} {i : Nat}

/-- What is known of the entries of turns: a turn that is registered is so with its own token, which
is there, and it has not left yet. -/
structure Entered (d : Desk) : Prop where
  turn : ∀ (i : Nat) (t : TurnTask) (k : Tracker) (turn : ActiveTurn), d.cards[i]? = some t →
    d.trackers[t.post]? = some k → k.turnOf? t.setup.sessionId = some turn →
      turn.generation = t.turn.generation → turn = t.turn
  stays : ∀ (i : Nat) (t : TurnTask) (k : Tracker), d.cards[i]? = some t →
    d.trackers[t.post]? = some k → k.owns t.setup.sessionId t.turn.generation →
      (∃ p, t.stage = .working p) ∨ ∃ outcome, t.stage = .unregistering outcome
  token : ∀ (i : Nat) (t : TurnTask), d.cards[i]? = some t → t.turn.token < d.tokens.nodes.length

/-- The course of a turn is over, or its token is canceled. -/
def Stopped (d : Desk) (i : Nat) : Prop :=
  ∃ t, d.turns[i]? = some t ∧ (d.isCanceled t.turn.token ∨ t.stage.result?.isSome)

theorem stopped_iff : d.Stopped i ↔ ∃ t, d.cards[i]? = some t ∧
    (d.isCanceled t.turn.token ∨ t.stage.result?.isSome) := by
  constructor
  · rintro ⟨t, ht, h⟩
    exact ⟨t.card, by simp [cards, ht], h⟩
  · rintro ⟨t, ht, h⟩
    simp only [cards, List.getElem?_map, Option.map_eq_some_iff] at ht
    obtain ⟨t, ht, rfl⟩ := ht
    exact ⟨t, ht, h⟩

theorem entered_openOn (roster : Roster) (sources : List Source) (store : WatchedStore)
    (bench : Workbench) : (openOn roster sources store bench).Entered := by
  refine ⟨fun i t k turn ht => ?_, fun i t k ht => ?_, fun i t ht => ?_⟩ <;> cases ht

namespace Entered

/-- Trackers that make a move give no entry to a turn that was there before. -/
theorem turnOf?_moved {t : TurnTask} {k' : Tracker} {turn : ActiveTurn} (ha : d.Accounted)
    (ht : d.cards[i]? = some t)
    (htrackers : ∀ (j : PostId) (k' : Tracker), d'.trackers[j]? = some k' →
      ∃ k, d.trackers[j]? = some k ∧ Tracker.Moved k k')
    (hk' : d'.trackers[t.post]? = some k')
    (hturn : k'.turnOf? t.setup.sessionId = some turn)
    (hgeneration : turn.generation = t.turn.generation) :
    ∃ k, d.trackers[t.post]? = some k ∧ k.turnOf? t.setup.sessionId = some turn := by
  obtain ⟨k, hk, hmoved⟩ := htrackers t.post k' hk'
  have hle := ha.generation i t k ht hk
  exact ⟨k, hk, hmoved.turnOf? _ turn (hgeneration ▸ hle) hturn⟩

theorem owns_moved {t : TurnTask} {k' : Tracker} (ha : d.Accounted) (ht : d.cards[i]? = some t)
    (htrackers : ∀ (j : PostId) (k' : Tracker), d'.trackers[j]? = some k' →
      ∃ k, d.trackers[j]? = some k ∧ Tracker.Moved k k')
    (hk' : d'.trackers[t.post]? = some k')
    (howns : k'.owns t.setup.sessionId t.turn.generation) :
    ∃ k, d.trackers[t.post]? = some k ∧ k.owns t.setup.sessionId t.turn.generation := by
  obtain ⟨k, hk, hmoved⟩ := htrackers t.post k' hk'
  exact ⟨k, hk, hmoved.owns (ha.generation i t k ht hk) howns⟩

/-- A move that is no step of a turn. -/
theorem serves {m : DeskMove} (ha : d.Accounted) (h : d.Entered) (hs : Serves d d')
    (hk : Keeps d m d') : d'.Entered := by
  have htrackers : ∀ (j : PostId) (k' : Tracker), d'.trackers[j]? = some k' →
      ∃ k, d.trackers[j]? = some k ∧ Tracker.Moved k k' := fun j k' hk' => by
    obtain ⟨k, hk, hmoved, -⟩ := hs.trackers j k' hk'
    exact ⟨k, hk, hmoved⟩
  -- What is known of a turn that was there before.
  have hold : ∀ (i : Nat) (t : TurnTask), d.cards[i]? = some t →
      (∀ (k' : Tracker) (turn : ActiveTurn), d'.trackers[t.post]? = some k' →
        k'.turnOf? t.setup.sessionId = some turn →
          turn.generation = t.turn.generation → turn = t.turn) ∧
      (∀ k' : Tracker, d'.trackers[t.post]? = some k' →
        k'.owns t.setup.sessionId t.turn.generation →
          (∃ p, t.stage = .working p) ∨ ∃ outcome, t.stage = .unregistering outcome) ∧
      t.turn.token < d'.tokens.nodes.length := by
    intro i t ht
    refine ⟨fun k' turn hk' hturn hgeneration => ?_, fun k' hk' howns => ?_, ?_⟩
    · obtain ⟨k, hk, hturn⟩ := turnOf?_moved ha ht htrackers hk' hturn hgeneration
      exact h.turn i t k turn ht hk hturn hgeneration
    · obtain ⟨k, hk, howns⟩ := owns_moved ha ht htrackers hk' howns
      exact h.stays i t k ht hk howns
    · exact Nat.lt_of_lt_of_le (h.token i t ht) hs.tokens.length_le
  rcases hk.cards with hcards | ⟨task, k, k', hcards, -, -, hk', hturn, hstage, htoken⟩
  · refine ⟨fun i t k' turn ht => ?_, fun i t k' ht => ?_, fun i t ht => ?_⟩
    · exact (hold i t (hcards ▸ ht)).1 k' turn
    · exact (hold i t (hcards ▸ ht)).2.1 k'
    · exact (hold i t (hcards ▸ ht)).2.2
  · refine ⟨fun i t k₁ turn ht hk₁ hturn₁ hgeneration => ?_, fun i t k₁ ht hk₁ howns => ?_,
      fun i t ht => ?_⟩
    · rcases card_append_cases hcards ht with ht | ⟨-, rfl⟩
      · exact (hold i t ht).1 k₁ turn hk₁ hturn₁ hgeneration
      · obtain rfl := Option.some.inj (hk'.symm.trans hk₁)
        exact Option.some.inj (hturn₁.symm.trans hturn)
    · rcases card_append_cases hcards ht with ht | ⟨-, rfl⟩
      · exact (hold i t ht).2.1 k₁ hk₁ howns
      · exact .inl ⟨_, hstage⟩
    · rcases card_append_cases hcards ht with ht | ⟨-, rfl⟩
      · exact (hold i t ht).2.2
      · exact htoken

/-- A step of a turn: what is known of the other turns stays, and it remains to say that this one is
not registered once it has left. -/
theorem set {t : TurnTask} {stage : TurnStage} (ha : d.Accounted) (h : d.Entered)
    (ht : d.cards[i]? = some t) (hcards : d'.cards = d.cards.set i { t with stage := stage })
    (htrackers : ∀ (j : PostId) (k' : Tracker), d'.trackers[j]? = some k' →
      ∃ k, d.trackers[j]? = some k ∧ Tracker.Moved k k')
    (htokens : d.tokens.Later d'.tokens)
    (hstays : ∀ k' : Tracker, d'.trackers[t.post]? = some k' →
      k'.owns t.setup.sessionId t.turn.generation →
        (∃ p, stage = .working p) ∨ ∃ outcome, stage = .unregistering outcome) : d'.Entered := by
  refine ⟨fun j t' k' turn ht' hk' hturn hgeneration => ?_, fun j t' k' ht' hk' howns => ?_,
    fun j t' ht' => ?_⟩
  · rcases card_set_cases hcards ht' with ⟨-, hj⟩ | ⟨-, rfl⟩
    · obtain ⟨k, hk, hturn⟩ := turnOf?_moved ha hj htrackers hk' hturn hgeneration
      exact h.turn j t' k turn hj hk hturn hgeneration
    · obtain ⟨k, hk, hturn⟩ := turnOf?_moved ha ht htrackers hk' hturn hgeneration
      exact h.turn i t k turn ht hk hturn hgeneration
  · rcases card_set_cases hcards ht' with ⟨-, hj⟩ | ⟨-, rfl⟩
    · obtain ⟨k, hk, howns⟩ := owns_moved ha hj htrackers hk' howns
      exact h.stays j t' k hj hk howns
    · exact hstays k' hk' howns
  · rcases card_set_cases hcards ht' with ⟨-, hj⟩ | ⟨-, rfl⟩
    · exact Nat.lt_of_lt_of_le (h.token j t' hj) htokens.length_le
    · exact Nat.lt_of_lt_of_le (h.token i t ht) htokens.length_le

/-- **A step of a turn.** -/
theorem advances (ha : d.Accounted) (h : d.Entered) (hs : Advances d i d') : d'.Entered := by
  cases hs with
  | rests same => exact same ▸ h
  | works t p now reply card stage exchange cards trackers tokens halted honest prompted =>
    refine h.set ha card cards (moved_of_modify trackers fun k => k.moved_track ..) tokens ?_
    intro k' _ _
    cases p.resume t.setup now reply with
    | next p' => exact .inl ⟨p', rfl⟩
    | stop outcome => exact .inr ⟨outcome, rfl⟩
  | leaves t outcome card stage exchange cards trackers tokens =>
    refine h.set ha card cards (moved_of_modify trackers fun k => k.moved_finish ..) tokens ?_
    intro k' hk' howns
    obtain ⟨k, -, ⟨-, rfl⟩ | ⟨hne, -⟩⟩ := tracker_cases trackers hk'
    · exact absurd howns Tracker.not_owns_finish
    · exact absurd rfl hne
  | delivers t outcome card stage exchange cards trackers tokens =>
    refine h.set ha card cards (fun j k' hk' => ⟨k', trackers ▸ hk', .refl k'⟩) tokens ?_
    intro k' hk' howns
    rcases h.stays i t k' card (trackers ▸ hk') howns with ⟨p, hp⟩ | ⟨outcome', hout⟩
    · cases stage.symm.trans hp
    · cases stage.symm.trans hout

theorem move (ha : d.Accounted) (h : d.Entered) (m : DeskMove) : (d.move m).Entered := by
  by_cases hm : ∃ j, m = .step (.turn j)
  · obtain ⟨j, rfl⟩ := hm
    exact h.advances ha (d.advances_move j)
  · exact h.serves ha (d.serves_move fun j hj => hm ⟨j, hj⟩) (d.keeps_move fun j hj => hm ⟨j, hj⟩)

theorem run (ha : d.Accounted) (h : d.Entered) (moves : List DeskMove) : (d.run moves).Entered := by
  induction moves generalizing d with
  | nil => exact h
  | cons m moves ih => exact ih (accounted_move ha m) (h.move ha m)

end Entered

/-! ## Losing a registration -/

/-- A turn changes nothing of itself but its stage. -/
theorem exists_card_run {t : TurnTask} (moves : List DeskMove) (ht : d.cards[i]? = some t) :
    ∃ stage, (d.run moves).cards[i]? = some { t with stage } := by
  induction moves generalizing d t with
  | nil => exact ⟨t.stage, ht⟩
  | cons m moves ih =>
    obtain ⟨stage, ht', -⟩ := goes_move ht m
    obtain ⟨stage', hcard⟩ := ih ht'
    exact ⟨stage', hcard⟩

theorem Stopped.move (h : d.Stopped i) (m : DeskMove) : (d.move m).Stopped i := by
  obtain ⟨t, ht, hstopped⟩ := stopped_iff.mp h
  obtain ⟨stage, ht', hgoes⟩ := goes_move ht m
  refine stopped_iff.mpr ⟨_, ht', ?_⟩
  rcases hstopped with hc | hover
  · exact .inl ((later_move d m).isCanceled hc)
  · refine .inr ?_
    generalize m.pick i (d.delivery? i) = delivery at hgoes
    generalize m.pick i (d.exchange? i) = exchange at hgoes
    generalize t.stage = before at hgoes hover
    cases hgoes with
    | rests => exact hover
    | works => cases hover
    | leaves | delivers => rfl

/-- A step of a turn does not take the registration of another turn. -/
theorem Registered.set {revoked : Nat → Prop} {j : Nat} {t' : TurnTask} {stage : TurnStage}
    {f : Tracker → Tracker} (h : d.Registered i) (he : d.Enrolled revoked) (hij : i ≠ j)
    (ht' : d.cards[j]? = some t') (hcards : d'.cards = d.cards.set j { t' with stage := stage })
    (htrackers : d'.trackers = d.trackers.modify t'.post f)
    (hother : ∀ k s g, g ≠ t'.turn.generation → ((f k).owns s g ↔ k.owns s g)) :
    d'.Registered i := by
  obtain ⟨t, k, ht, hk, howns⟩ := registered_iff.mp h
  have hcard : d'.cards[i]? = some t := by rw [hcards, List.getElem?_set_ne (Ne.symm hij), ht]
  refine registered_iff.mpr ?_
  by_cases hpost : t'.post = t.post
  · have hne : t.turn.generation ≠ t'.turn.generation := fun hgeneration =>
      hij (he.distinct i j t t' ht ht' hpost.symm hgeneration)
    exact ⟨t, f k, hcard, by simp [htrackers, hpost, hk], (hother k _ _ hne).mpr howns⟩
  · exact ⟨t, k, hcard, by simp [htrackers, hpost, hk], howns⟩

theorem registered_other {revoked : Nat → Prop} {j : Nat} (he : d.Enrolled revoked) (hij : i ≠ j)
    (h : d.Registered i) (hs : Advances d j d') : d'.Registered i := by
  cases hs with
  | rests same => exact same ▸ h
  | works t p now reply card stage exchange cards trackers tokens halted honest prompted =>
    exact h.set he hij card cards trackers fun k s g hne => Tracker.owns_track_of_ne hne _
  | leaves t outcome card stage exchange cards trackers tokens =>
    exact h.set he hij card cards trackers fun k s g hne => Tracker.owns_finish_of_ne hne
  | delivers t outcome card stage exchange cards trackers tokens =>
    exact h.set he hij card cards (trackers.trans (List.modify_id ..).symm) fun k s g _ => .rfl

/-- A turn keeps its registration as long as its course goes on. -/
theorem registered_own (h : d.Registered i) (hs : Advances d i d') :
    d'.Registered i ∨ d'.Stopped i := by
  cases hs with
  | rests same => exact .inl (same ▸ h)
  | works t p now reply card stage exchange cards trackers tokens halted honest prompted =>
    have hlt := (List.getElem?_eq_some_iff.mp card).1
    cases hprogress : p.resume t.setup now reply with
    | stop outcome =>
      exact .inr (stopped_iff.mpr
        ⟨_, by rw [cards, List.getElem?_set_self hlt], .inr (by rw [hprogress]; rfl)⟩)
    | next p' =>
      obtain ⟨t₀, k, ht₀, hk, howns⟩ := registered_iff.mp h
      obtain rfl := Option.some.inj (card.symm.trans ht₀)
      have hsame := TurnPhase.owns_track_of_next hprogress (hk ▸ prompted)
      have hcard := cards ▸ List.getElem?_set_self (a := { t with stage := _ }) hlt
      exact .inl (registered_iff.mpr ⟨_, _, hcard, by simp [trackers, hk], hsame.mpr howns⟩)
  | leaves t outcome card stage exchange cards trackers tokens =>
    have hlt := (List.getElem?_eq_some_iff.mp card).1
    exact .inr (stopped_iff.mpr ⟨_, by rw [cards, List.getElem?_set_self hlt], .inr rfl⟩)
  | delivers t outcome card stage exchange cards trackers tokens =>
    have hlt := (List.getElem?_eq_some_iff.mp card).1
    exact .inr (stopped_iff.mpr ⟨_, by rw [cards, List.getElem?_set_self hlt], .inr rfl⟩)

/-- A registered turn whose session is canceled has its token canceled. -/
theorem stopped_cancel {t : TurnTask} {k : Tracker} (h : d.Entered) (ht : d.cards[i]? = some t)
    (hk : d.trackers[t.post]? = some k) (howns : k.owns t.setup.sessionId t.turn.generation) :
    (d.cancel t.post t.setup.sessionId).Stopped i := by
  obtain ⟨turn, hturn, hgeneration⟩ := Tracker.owns_iff.mp howns
  obtain rfl := h.turn i t k turn ht hk hturn hgeneration
  obtain ⟨p, hp, rfl⟩ : ∃ p, d.posts[t.post]? = some p ∧ p.tracker = k := by
    simpa [trackers] using hk
  have htokens : (d.cancel t.post t.setup.sessionId).tokens = d.tokens.cancel t.turn.token := by
    simp [cancel, hp, Tracker.cancel, hturn]
  have hcards : (d.cancel t.post t.setup.sessionId).cards = d.cards := by
    unfold cancel
    split <;> rfl
  refine stopped_iff.mpr ⟨t, hcards ▸ ht, .inl ?_⟩
  rw [isCanceled, htokens]
  exact TokenTree.isCanceled_cancel_self (h.token i t ht)

/-- **What a move can do to a registered turn**: it stays registered, or it is stopped. -/
theorem registered_move {revoked : Nat → Prop} (ha : d.Accounted) (he : d.Enrolled revoked)
    (h : d.Entered) (hr : d.Registered i) (m : DeskMove) :
    (d.move m).Registered i ∨ (d.move m).Stopped i := by
  by_cases hm : ∃ j, m = .step (.turn j)
  · obtain ⟨j, rfl⟩ := hm
    by_cases hij : i = j
    · subst hij
      exact registered_own hr (d.advances_move i)
    · exact .inl (registered_other he hij hr (d.advances_move j))
  · obtain ⟨t, k, ht, hk, howns⟩ := registered_iff.mp hr
    by_cases hrevokes : m = .cancel t.post t.setup.sessionId
    · exact .inr (hrevokes ▸ stopped_cancel h ht hk howns)
    · have hkeeps := d.keeps_move fun j hj => hm ⟨j, hj⟩
      have hcard : (d.move m).cards[i]? = some t := card_move ht fun hi => hm ⟨i, hi⟩
      have hlt : t.post < (d.move m).trackers.length :=
        hkeeps.posts ▸ (List.getElem?_eq_some_iff.mp hk).1
      have hk' := List.getElem?_eq_getElem hlt
      obtain ⟨k₀, hk₀, hsame⟩ := hkeeps.owns t.post _ hk'
      obtain rfl := Option.some.inj (hk.symm.trans hk₀)
      refine .inl (registered_iff.mpr ⟨t, _, hcard, hk', ?_⟩)
      exact (hsame _ _ (ha.generation i t k ht hk)).mpr ⟨howns, hrevokes⟩

/-- **A turn that was registered once** is so until it is stopped, and then it stays stopped. -/
theorem registered_run {revoked : Nat → Prop} (ha : d.Accounted) (he : d.Enrolled revoked)
    (h : d.Entered) (moves : List DeskMove) (hr : d.Registered i ∨ d.Stopped i) :
    (d.run moves).Registered i ∨ (d.run moves).Stopped i := by
  induction moves generalizing d revoked with
  | nil => exact hr
  | cons m moves ih =>
    refine ih (accounted_move ha m) (he.move ha m) (h.move ha m) ?_
    rcases hr with hr | hstopped
    · exact registered_move ha he h hr m
    · exact .inr (hstopped.move m)

end Desk

end AgentDesk
