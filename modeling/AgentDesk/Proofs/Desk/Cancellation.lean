import AgentDesk.Proofs.Desk.Moves
import AgentDesk.Proofs.Turn.Closing
/-!
# Cancellation is final

Here is what a turn can still do once its token is canceled, whatever else happens on the desk. It
opens no stream and sends off no tool; a tool that it sent off before goes on until the turn gives
it up. It delivers one outcome. It does so after a number of its own steps that is known beforehand,
up to the prompts that come to wait for it. If its round was not done, the outcome is that it was
canceled, and its message is closed accordingly.

## Main definitions

* `Exchange.Ventures` — what a canceled turn does not do.
* `Desk.trace` and `Desk.deliveries` — what a turn exchanges and what it delivers in some moves.
* `TurnStage.left`, `Desk.waiting` and `Desk.arrivals` — how far it is to the end.
-/

namespace AgentDesk

/-- A stream is opened, or a tool is sent off; or the turn would have done so, but could not. -/
def Exchange.Ventures : Exchange → Prop
  | ⟨.openStream _, (reply : Opening)⟩ => reply ≠ .canceled
  | ⟨.startTool _ _, (reply : ToolStart)⟩ => reply ≠ .canceled
  | _ => False

/-- Whether a move is a step of a turn. -/
def DeskMove.isStepOf (i : Nat) : DeskMove → Bool
  | .step (.turn j) => j == i
  | _ => false

theorem DeskMove.isStepOf_iff {i : Nat} {m : DeskMove} :
    m.isStepOf i ↔ m = .step (.turn i) := by
  unfold isStepOf
  split <;> simp_all

/-- What a move yields if it is a step of a turn. -/
def DeskMove.pick (i : Nat) (m : DeskMove) (a : Option α) : Option α :=
  if m.isStepOf i then a else none

theorem DeskMove.pick_self (i : Nat) (a : Option α) : (DeskMove.step (.turn i)).pick i a = a :=
  if_pos (isStepOf_iff.mpr rfl)

theorem DeskMove.pick_of_ne {i : Nat} {m : DeskMove} {a : Option α} (h : m ≠ .step (.turn i)) :
    m.pick i a = none :=
  if_neg fun hstep => h (isStepOf_iff.mp hstep)

theorem DeskMove.pick_eq_some {i : Nat} {m : DeskMove} {a : Option α} {x : α}
    (h : m.pick i a = some x) : m = .step (.turn i) ∧ a = some x := by
  by_cases hm : m = .step (.turn i)
  · subst hm
    exact ⟨rfl, (pick_self i a).symm.trans h⟩
  · cases (pick_of_ne hm).symm.trans h

namespace TurnStage

/-- What the next step delivers. -/
def delivery? : TurnStage → Option TurnOutcome
  | .delivering outcome => some outcome
  | _ => none

/-- The outcome of a turn whose course is over. -/
def result? : TurnStage → Option TurnOutcome
  | .working _ => none
  | .unregistering outcome | .delivering outcome | .ended outcome => some outcome

/-- How many steps a canceled turn has left at most, if it takes no prompts any more. -/
def left : TurnStage → Nat
  | .working p => p.left + 2
  | .unregistering _ => 2
  | .delivering _ => 1
  | .ended _ => 0

/-- What a move makes of the stage of a turn, with the exchange and the delivery in it. -/
inductive Goes (setup : TurnSetup) :
    TurnStage → Option Exchange → Option TurnOutcome → TurnStage → Prop where
  | rests (stage : TurnStage) : Goes setup stage none none stage
  | works (p : TurnPhase) (now : Timestamp) (reply : (p.request setup).Reply)
    (honest : (p.request setup).Honest reply) :
    Goes setup (.working p) (some ⟨p.request setup, reply⟩) none (p.resume setup now reply).stage
  | leaves (outcome : TurnOutcome) :
    Goes setup (.unregistering outcome) none none (.delivering outcome)
  | delivers (outcome : TurnOutcome) :
    Goes setup (.delivering outcome) none (some outcome) (.ended outcome)

end TurnStage

theorem Exchange.not_ventures {e : Exchange} (h : e.request.Halted e.reply) : ¬ e.Ventures := by
  obtain ⟨request, reply⟩ := e
  cases request with
  | openStream request => exact fun hne => hne h
  | startTool messageId call => exact fun hne => hne h
  | _ => exact fun hne => hne

/-- What a request takes from the prompts that wait does not wait any more. -/
theorem Tracker.taken_le {r : TurnRequest} {reply : r.Reply} {s : String} {g : Nat} {k : Tracker}
    (h : r.Prompted s g (some k) reply) :
    ((r.track s g k).queueOf s).length + r.taken reply ≤ (k.queueOf s).length := by
  cases r with
  | drainQueue =>
    obtain rfl : reply = k.queueOf s := h
    simp [TurnRequest.track, TurnRequest.taken, Tracker.drain]
  | finishOrTake =>
    obtain rfl : reply = (k.finishOrTake s g).1 := h
    simp only [TurnRequest.track, TurnRequest.taken, Tracker.queueOf_finishOrTake,
      Tracker.finishOrTake_fst]
    by_cases ho : k.owns s g <;> simp [ho]
  | _ => exact Nat.le_refl _

/-- Where there is no tracker, there are no prompts. -/
theorem TurnRequest.taken_of_none {r : TurnRequest} {reply : r.Reply} {s : String} {g : Nat}
    (h : r.Prompted s g none reply) : r.taken reply = 0 := by
  cases r with
  | drainQueue | finishOrTake =>
    obtain rfl : reply = [] := h
    rfl
  | _ => rfl

namespace Desk

/-- What the next step of a turn delivers. -/
def delivery? (d : Desk) (i : Nat) : Option TurnOutcome :=
  (d.turns[i]?).bind fun t => t.stage.delivery?

/-- The outcome that a turn has delivered. -/
def outcomeOf? (d : Desk) (i : Nat) : Option TurnOutcome := (d.turns[i]?).bind TurnTask.outcome?

/-- The exchanges of a turn in some moves. -/
def trace (i : Nat) : Desk → List DeskMove → List Exchange
  | _, [] => []
  | d, m :: moves => (m.pick i (d.exchange? i)).toList ++ trace i (d.move m) moves

/-- The outcomes that a turn delivers in some moves. -/
def deliveries (i : Nat) : Desk → List DeskMove → List TurnOutcome
  | _, [] => []
  | d, m :: moves => (m.pick i (d.delivery? i)).toList ++ deliveries i (d.move m) moves

/-- How many prompts wait for a session at a post. -/
def waiting (d : Desk) (post : PostId) (session : String) : Nat :=
  ((d.trackers[post]?).map fun k => (k.queueOf session).length).getD 0

/-- How many prompts come to wait for a session at a post in some moves. -/
def arrivals (post : PostId) (session : String) : Desk → List DeskMove → Nat
  | _, [] => 0
  | d, m :: moves =>
    ((d.move m).waiting post session - d.waiting post session) +
      arrivals post session (d.move m) moves

variable {d d' : Desk} {i : Nat} {t : TurnTask} {m : DeskMove}

/-! ## One move -/

/-- What was canceled stays canceled, whatever happens. -/
theorem later_move (d : Desk) (m : DeskMove) : d.tokens.Later (d.move m).tokens := by
  by_cases hm : ∃ j, m = .step (.turn j)
  · obtain ⟨j, rfl⟩ := hm
    cases d.advances_move j with
    | rests same =>
      rw [same]
      exact .refl _
    | works _ _ _ _ _ _ _ _ _ tokens => exact tokens
    | leaves _ _ _ _ _ _ _ tokens => exact tokens
    | delivers _ _ _ _ _ _ _ tokens => exact tokens
  · exact (d.serves_move fun j hj => hm ⟨j, hj⟩).tokens

/-- A move changes one turn, by a step of that turn, or none, or one turn more is there. -/
theorem cards_move (d : Desk) (m : DeskMove) :
    (∃ (j : Nat) (t : TurnTask), m = .step (.turn j) ∧ (d.move m).cards = d.cards.set j t) ∨
      (d.move m).cards = d.cards ∨
      ∃ t : TurnTask, (d.move m).cards = d.cards ++ [t] ∧ t.stage = .working .listing := by
  by_cases hm : ∃ j, m = .step (.turn j)
  · obtain ⟨j, rfl⟩ := hm
    cases d.advances_move j with
    | rests same => exact .inr (.inl (by rw [same]))
    | works _ _ _ _ _ _ _ cards => exact .inl ⟨j, _, rfl, cards⟩
    | leaves _ _ _ _ _ cards => exact .inl ⟨j, _, rfl, cards⟩
    | delivers _ _ _ _ _ cards => exact .inl ⟨j, _, rfl, cards⟩
  · rcases (d.serves_move fun j hj => hm ⟨j, hj⟩).cards with h | ⟨t, h, hstage, -⟩
    · exact .inr (.inl h)
    · exact .inr (.inr ⟨t, h, hstage⟩)

/-- A turn changes in no move but its own steps. -/
theorem card_move (ht : d.cards[i]? = some t) (hm : m ≠ .step (.turn i)) :
    (d.move m).cards[i]? = some t := by
  rcases d.cards_move m with ⟨j, t', rfl, h⟩ | h | ⟨t', h, -⟩
  · have hne : j ≠ i := fun hj => hm (hj ▸ rfl)
    rw [h, List.getElem?_set_ne hne, ht]
  · rw [h, ht]
  · have hlt := (List.getElem?_eq_some_iff.mp ht).1
    rw [h, List.getElem?_append_left hlt, ht]

/-- A turn that was not there before is at its beginning. -/
theorem card_of_none (hnone : d.cards[i]? = none) (ht : (d.move m).cards[i]? = some t) :
    t.stage = .working .listing := by
  have hlen := List.getElem?_eq_none_iff.mp hnone
  rcases d.cards_move m with ⟨j, t', -, h⟩ | h | ⟨t', h, hstage⟩
  · have hlt := (List.getElem?_eq_some_iff.mp ht).1
    rw [h, List.length_set] at hlt
    omega
  · cases hnone.symm.trans (h ▸ ht)
  · rw [h, List.getElem?_append_right hlen] at ht
    obtain rfl := List.mem_singleton.mp (List.mem_of_getElem? ht)
    exact hstage

theorem delivery?_eq (ht : d.cards[i]? = some t) : d.delivery? i = t.stage.delivery? := by
  obtain ⟨t', ht', rfl⟩ := Option.map_eq_some_iff.mp (List.getElem?_map ▸ ht)
  simp [delivery?, ht', TurnTask.card]

theorem outcomeOf?_eq (ht : d.cards[i]? = some t) : d.outcomeOf? i = t.outcome? := by
  obtain ⟨t', ht', rfl⟩ := Option.map_eq_some_iff.mp (List.getElem?_map ▸ ht)
  simp [outcomeOf?, ht', TurnTask.card, TurnTask.outcome?]

/-- **What a move makes of a turn.** -/
theorem goes_move (ht : d.cards[i]? = some t) (m : DeskMove) :
    ∃ stage, (d.move m).cards[i]? = some { t with stage } ∧
      TurnStage.Goes t.setup t.stage (m.pick i (d.exchange? i))
        (m.pick i (d.delivery? i)) stage := by
  by_cases hm : m = .step (.turn i)
  · subst hm
    have hlt := (List.getElem?_eq_some_iff.mp ht).1
    rw [DeskMove.pick_self, DeskMove.pick_self, delivery?_eq ht]
    cases d.advances_move i with
    | rests same exchange waits =>
      refine ⟨t.stage, by rw [same, ht], ?_⟩
      rw [exchange]
      rcases waits t ht with ⟨outcome, hstage⟩ | ⟨⟨p, hstage⟩, -⟩ <;> rw [hstage] <;>
        exact .rests _
    | works t' p now reply card stage exchange cards trackers tokens halted honest =>
      obtain rfl := Option.some.inj (ht.symm.trans card)
      refine ⟨_, by rw [cards, List.getElem?_set_self hlt], ?_⟩
      rw [exchange, stage]
      exact .works p now reply honest
    | leaves t' outcome card stage exchange cards =>
      obtain rfl := Option.some.inj (ht.symm.trans card)
      refine ⟨_, by rw [cards, List.getElem?_set_self hlt], ?_⟩
      rw [exchange, stage]
      exact .leaves outcome
    | delivers t' outcome card stage exchange cards =>
      obtain rfl := Option.some.inj (ht.symm.trans card)
      refine ⟨_, by rw [cards, List.getElem?_set_self hlt], ?_⟩
      rw [exchange, stage]
      exact .delivers outcome
  · refine ⟨t.stage, card_move ht hm, ?_⟩
    rw [DeskMove.pick_of_ne hm, DeskMove.pick_of_ne hm]
    exact .rests _

/-- A canceled turn is answered accordingly, and a message is created from its draft. -/
theorem halted_exchange? {e : Exchange} (ht : d.cards[i]? = some t)
    (hc : d.isCanceled t.turn.token) (he : d.exchange? i = some e) :
    e.request.Honest e.reply ∧ e.request.Halted e.reply := by
  cases d.advances_move i with
  | works t' p now reply card stage exchange cards trackers tokens halted honest =>
    obtain rfl := Option.some.inj (ht.symm.trans card)
    obtain rfl := Option.some.inj (exchange.symm.trans he)
    exact ⟨honest, halted hc⟩
  | rests _ exchange => cases exchange.symm.trans he
  | leaves _ _ _ _ exchange => cases exchange.symm.trans he
  | delivers _ _ _ _ exchange => cases exchange.symm.trans he

/-! ## What turns know -/

/-- Every turn at work knows what belongs to its phase. -/
def Coherent (d : Desk) : Prop := ∀ (i : Nat) (t : TurnTask) (p : TurnPhase),
  d.cards[i]? = some t → t.stage = .working p → p.Coherent

theorem coherent_openOn (roster : Roster) (sources : List Source) (store : WatchedStore)
    (bench : Workbench) : (openOn roster sources store bench).Coherent := by
  intro i t p ht
  cases ht

/-- A turn that is new knows nothing yet, and a turn that makes a step stays coherent. -/
theorem coherent_move (h : d.Coherent) (m : DeskMove) : (d.move m).Coherent := by
  intro i t p ht hstage
  cases hcard : d.cards[i]? with
  | some t₀ =>
    obtain ⟨stage, ht', hgoes⟩ := goes_move hcard m
    obtain rfl := Option.some.inj (ht'.symm.trans ht)
    generalize m.pick i (d.delivery? i) = delivery at hgoes
    generalize m.pick i (d.exchange? i) = exchange at hgoes
    generalize hbefore : t₀.stage = before at hgoes
    cases hgoes with
    | rests => exact h i t₀ p hcard (hbefore.trans hstage)
    | works p₀ now reply honest =>
      have hworking : (p₀.resume t₀.setup now reply).stage = .working p := hstage
      cases hprogress : p₀.resume t₀.setup now reply with
      | next p' =>
        rw [hprogress] at hworking
        cases hworking
        exact TurnPhase.coherent_resume (h i t₀ p₀ hcard hbefore) honest hprogress
      | stop outcome =>
        rw [hprogress] at hworking
        cases hworking
    | leaves outcome => cases hstage
    | delivers outcome => cases hstage
  | none =>
    have hnew := card_of_none hcard ht
    rw [hnew] at hstage
    cases hstage
    trivial

theorem coherent_run (moves : List DeskMove) (h : d.Coherent) : (d.run moves).Coherent := by
  induction moves generalizing d with
  | nil => exact h
  | cons m moves ih => exact ih (coherent_move h m)

/-! ## Many moves -/

/-- A canceled turn is answered accordingly in all its exchanges. -/
theorem halted_trace {e : Exchange} (moves : List DeskMove) (ht : d.cards[i]? = some t)
    (hc : d.isCanceled t.turn.token) (he : e ∈ trace i d moves) :
    e.request.Honest e.reply ∧ e.request.Halted e.reply := by
  induction moves generalizing d t with
  | nil => cases he
  | cons m moves ih =>
    rcases List.mem_append.mp he with hnow | hlater
    · obtain ⟨-, hexchange⟩ := DeskMove.pick_eq_some (Option.mem_toList.mp hnow)
      exact halted_exchange? ht hc hexchange
    · obtain ⟨stage, ht', -⟩ := goes_move ht m
      exact ih ht' ((later_move d m).isCanceled hc) hlater

/-- **A turn delivers one outcome**: what it delivers in some moves is what it has come to. -/
theorem deliveries_run (i : Nat) (moves : List DeskMove) : ∀ d : Desk,
    (d.outcomeOf? i).toList ++ deliveries i d moves = ((d.run moves).outcomeOf? i).toList := by
  -- One move: a turn that is not there, or is new in this move, has delivered nothing.
  have hmove : ∀ (d : Desk) (m : DeskMove),
      (d.outcomeOf? i).toList ++ (m.pick i (d.delivery? i)).toList =
        ((d.move m).outcomeOf? i).toList := by
    intro d m
    cases hcard : d.cards[i]? with
    | some t =>
      obtain ⟨stage, ht', hgoes⟩ := goes_move hcard m
      rw [outcomeOf?_eq hcard, outcomeOf?_eq ht']
      unfold TurnTask.outcome?
      generalize hdelivery : m.pick i (d.delivery? i) = delivery at hgoes
      generalize hexchange : m.pick i (d.exchange? i) = exchange at hgoes
      generalize hstage : t.stage = before at hgoes
      cases hgoes with
      | rests => simp
      | works p now reply honest => cases p.resume t.setup now reply <;> rfl
      | leaves outcome => rfl
      | delivers outcome => rfl
    | none =>
      have hturn : d.turns[i]? = none := by simpa [cards] using hcard
      have hdelivery : m.pick i (d.delivery? i) = none := by simp [delivery?, hturn, DeskMove.pick]
      have houtcome : d.outcomeOf? i = none := by simp [outcomeOf?, hturn]
      rw [hdelivery, houtcome]
      cases hcard' : (d.move m).cards[i]? with
      | some t =>
        rw [outcomeOf?_eq hcard', TurnTask.outcome?, card_of_none hcard hcard']
        rfl
      | none =>
        have hturn' : (d.move m).turns[i]? = none := by simpa [cards] using hcard'
        simp [outcomeOf?, hturn']
  induction moves with
  | nil => exact fun d => List.append_nil _
  | cons m moves ih =>
    intro d
    rw [deliveries, ← List.append_assoc, hmove d m, ih]
    rfl

theorem outcomeOf?_eq_none (moves : List DeskMove) (h : (d.run moves).outcomeOf? i = none) :
    d.outcomeOf? i = none := by
  have hall := deliveries_run i moves d
  rw [h] at hall
  simpa using (List.append_eq_nil_iff.mp hall).1

/-- A turn whose course is over exchanges nothing any more, and sticks to its outcome. -/
theorem over_run {outcome : TurnOutcome} (moves : List DeskMove) (ht : d.cards[i]? = some t)
    (hover : t.stage.result? = some outcome) : trace i d moves = [] ∧
      ∃ stage, (d.run moves).cards[i]? = some { t with stage } ∧
        stage.result? = some outcome := by
  induction moves generalizing d t with
  | nil => exact ⟨rfl, t.stage, ht, hover⟩
  | cons m moves ih =>
    obtain ⟨stage, ht', hgoes⟩ := goes_move ht m
    have hstep : m.pick i (d.exchange? i) = none ∧ stage.result? = some outcome := by
      generalize m.pick i (d.delivery? i) = delivery at hgoes
      generalize m.pick i (d.exchange? i) = exchange at hgoes
      generalize t.stage = before at hgoes hover
      cases hgoes with
      | rests => exact ⟨rfl, hover⟩
      | works => cases hover
      | leaves => exact ⟨rfl, hover⟩
      | delivers => exact ⟨rfl, hover⟩
    obtain ⟨htrace, stage', hcard, hresult⟩ := ih ht' hstep.2
    refine ⟨?_, stage', hcard, hresult⟩
    rw [trace, hstep.1, htrace]
    rfl

/-- **The exchanges of a turn are its course**, up to where it has come. -/
theorem course_run {p : TurnPhase} (moves : List DeskMove) (ht : d.cards[i]? = some t)
    (hstage : t.stage = .working p) :
    ∃ progress stage, TurnPhase.Course t.setup p (trace i d moves) progress ∧
      (d.run moves).cards[i]? = some { t with stage } ∧ stage.result? = progress.stage.result? := by
  -- Induction on the moves; behind the last exchange of the course, `over_run` takes over.
  induction moves generalizing d t p with
  | nil => exact ⟨.next p, t.stage, .here p, ht, hstage ▸ rfl⟩
  | cons m moves ih =>
    obtain ⟨stage, ht', hgoes⟩ := goes_move ht m
    rw [trace]
    generalize m.pick i (d.delivery? i) = delivery at hgoes
    generalize m.pick i (d.exchange? i) = exchange at hgoes ⊢
    rw [hstage] at hgoes
    cases hgoes with
    | rests =>
      have hrest := ih ht' rfl
      exact hrest
    | works p now reply honest =>
      cases hprogress : p.resume t.setup now reply with
      | next p' =>
        rw [hprogress] at ht'
        obtain ⟨progress, stage, hcourse, hcard, hresult⟩ := ih ht' rfl
        exact ⟨progress, stage, .goesOn hprogress hcourse, hcard, hresult⟩
      | stop outcome =>
        rw [hprogress] at ht'
        obtain ⟨htrace, stage, hcard, hresult⟩ := over_run moves ht' rfl
        rw [htrace]
        exact ⟨.stop outcome, stage, .stops hprogress, hcard, hresult⟩

/-! ## The way to the end -/

theorem waiting_modify {post : PostId} {f : Tracker → Tracker}
    (h : d'.trackers = d.trackers.modify post f) (session : String) :
    d'.waiting post session =
      ((d.trackers[post]?).map fun k => ((f k).queueOf session).length).getD 0 := by
  rw [waiting, h, List.getElem?_modify]
  cases d.trackers[post]? <;> simp

/-- **A canceled turn comes closer to its end with every step of its own**, if it has not come to it
yet. -/
theorem left_step (ht : d.cards[i]? = some t) (hc : d.isCanceled t.turn.token)
    (hmore : d.outcomeOf? i = none) : ∃ stage,
      (d.move (.step (.turn i))).cards[i]? = some { t with stage } ∧
        stage.left + (d.move (.step (.turn i))).waiting t.post t.setup.sessionId <
          t.stage.left + d.waiting t.post t.setup.sessionId := by
  have hlt := (List.getElem?_eq_some_iff.mp ht).1
  cases d.advances_move i with
  | rests same exchange waits =>
    rcases waits t ht with ⟨outcome, hstage⟩ | ⟨-, hnot⟩
    · rw [outcomeOf?_eq ht, TurnTask.outcome?, hstage] at hmore
      cases hmore
    · exact absurd hc hnot
  | works t' p now reply card stage exchange cards trackers tokens halted honest prompted =>
    obtain rfl := Option.some.inj (ht.symm.trans card)
    refine ⟨_, by rw [cards, List.getElem?_set_self hlt], ?_⟩
    -- The prompts that the turn takes make its way longer, but they do not wait any more.
    have hleft : (p.resume t.setup now reply).stage.left <
        p.left + 2 + (p.request t.setup).taken reply := by
      cases hprogress : p.resume t.setup now reply with
      | next p' =>
        have hcloser := TurnPhase.left_resume (halted hc) hprogress
        simp only [TurnProgress.stage, TurnStage.left]
        omega
      | stop outcome =>
        have hpos := p.left_pos
        simp only [TurnProgress.stage, TurnStage.left]
        omega
    have htaken : (d.move (.step (.turn i))).waiting t.post t.setup.sessionId +
        (p.request t.setup).taken reply ≤ d.waiting t.post t.setup.sessionId := by
      rw [waiting_modify trackers, waiting]
      cases hk : d.trackers[t.post]? with
      | none =>
        rw [hk] at prompted
        simp [TurnRequest.taken_of_none prompted]
      | some k =>
        rw [hk] at prompted
        exact Tracker.taken_le prompted
    rw [stage, TurnStage.left]
    omega
  | leaves t' outcome card stage exchange cards trackers =>
    obtain rfl := Option.some.inj (ht.symm.trans card)
    refine ⟨_, by rw [cards, List.getElem?_set_self hlt], ?_⟩
    have hsame : (d.move (.step (.turn i))).waiting t.post t.setup.sessionId =
        d.waiting t.post t.setup.sessionId := by
      rw [waiting_modify trackers, waiting]
      simp
    rw [stage, hsame, TurnStage.left, TurnStage.left]
    omega
  | delivers t' outcome card stage exchange cards trackers =>
    obtain rfl := Option.some.inj (ht.symm.trans card)
    refine ⟨_, by rw [cards, List.getElem?_set_self hlt], ?_⟩
    rw [stage, waiting, trackers, waiting, TurnStage.left, TurnStage.left]
    omega

/-- A canceled turn that has not come to its end has made fewer steps than it had left, the prompts
included. -/
theorem steps_lt (moves : List DeskMove) (ht : d.cards[i]? = some t)
    (hc : d.isCanceled t.turn.token) (hmore : (d.run moves).outcomeOf? i = none) :
    moves.countP (·.isStepOf i) < t.stage.left + d.waiting t.post t.setup.sessionId +
      arrivals t.post t.setup.sessionId d moves := by
  have hnone := outcomeOf?_eq_none moves hmore
  induction moves generalizing d t with
  | nil =>
    rw [outcomeOf?_eq ht, TurnTask.outcome?] at hnone
    have hpos : 0 < t.stage.left := by
      cases hstage : t.stage with
      | ended outcome =>
        rw [hstage] at hnone
        cases hnone
      | _ => simp [TurnStage.left]
    simp [arrivals]
    omega
  | cons m moves ih =>
    have hc' := (later_move d m).isCanceled hc
    have hnone' : (d.move m).outcomeOf? i = none := outcomeOf?_eq_none moves hmore
    rw [arrivals, List.countP_cons]
    by_cases hm : m = .step (.turn i)
    · subst hm
      obtain ⟨stage, ht', hcloser⟩ := left_step ht hc hnone
      have hrest := ih ht' hc' hmore hnone'
      have hown : (DeskMove.step (.turn i)).isStepOf i := DeskMove.isStepOf_iff.mpr rfl
      rw [if_pos hown]
      dsimp only at hrest
      omega
    · have hnot : ¬ m.isStepOf i := fun h => hm (DeskMove.isStepOf_iff.mp h)
      have hrest := ih (card_move ht hm) hc' hmore hnone'
      rw [if_neg hnot]
      omega

/-! ## Finality -/

section

variable {roster : Roster} {sources : List Source} {store : WatchedStore} {bench : Workbench}
  {before : List DeskMove}

/-- **Cancellation is final.** Take a turn whose token is canceled, at any moment of any run, and
let anything happen from then on. The turn opens no stream and sends off no tool. What it delivers
in the whole run is the one outcome that it comes to; and it has come to it once it has made as many
steps as it had left. If it was canceled before its round was done, and its store does not fail,
then it comes to the outcome that it was canceled, and the message of the round, whether it was
there or was still to be created, is closed as canceled, with one result for each of its calls. -/
theorem canceled_run (hd : d = (openOn roster sources store bench).run before)
    (ht : d.turns[i]? = some t) (hc : d.isCanceled t.turn.token) (moves : List DeskMove) :
    (∀ e ∈ trace i d moves, ¬ e.Ventures) ∧
    deliveries i (openOn roster sources store bench) (before ++ moves) =
      ((d.run moves).outcomeOf? i).toList ∧
    (t.stage.left + d.waiting t.post t.setup.sessionId +
      arrivals t.post t.setup.sessionId d moves ≤ moves.countP (·.isStepOf i) →
        ((d.run moves).outcomeOf? i).isSome) ∧
    ∀ p outcome, t.stage = .working p → p.Unfinished → (∀ e ∈ trace i d moves, e.Accepted) →
      (d.run moves).outcomeOf? i = some outcome →
        outcome = .error .canceled ∧
        ∀ m, p.message? = some m ∨
          m ∈ (trace i d moves).filterMap Exchange.created? ∧ m.role = .assistant →
            ClosesCanceled m.id (trace i d moves) := by
  have hcard : d.cards[i]? = some t.card := by simp [cards, ht]
  have hhalted : ∀ e ∈ trace i d moves, e.request.Honest e.reply ∧ e.request.Halted e.reply :=
    fun e => halted_trace moves hcard hc
  refine ⟨fun e he => Exchange.not_ventures (hhalted e he).2, ?_, fun hleft => ?_, ?_⟩
  · have hall := deliveries_run i (before ++ moves) (openOn roster sources store bench)
    rw [run_append, ← hd] at hall
    exact hall
  · refine Option.isSome_iff_ne_none.mpr fun hnone => ?_
    have hlt := steps_lt moves hcard hc hnone
    exact absurd hlt (Nat.not_lt.mpr hleft)
  · intro p outcome hstage hunfinished haccepted houtcome
    have hcoherent : p.Coherent := by
      have hdesk := coherent_run before (coherent_openOn roster sources store bench)
      rw [← hd] at hdesk
      exact hdesk i t.card p hcard hstage
    obtain ⟨progress, stage, hcourse, hcard', hresult⟩ := course_run moves hcard hstage
    have hended : stage = .ended outcome := by
      rw [outcomeOf?_eq hcard', TurnTask.outcome?] at houtcome
      cases stage <;> cases houtcome
      rfl
    have hstop : progress = .stop outcome := by
      rw [hended] at hresult
      cases progress <;> cases hresult
      rfl
    subst hstop
    obtain ⟨hcanceled, hrounds, hmessage⟩ :=
      TurnPhase.finishes_unfinished hcoherent hunfinished _ outcome hcourse fun e he =>
        ⟨haccepted e he, (hhalted e he).1, (hhalted e he).2⟩
    refine ⟨hcanceled, fun m hm => ?_⟩
    rcases hm with hm | ⟨hcreated, hrole⟩
    · exact hmessage m hm
    · exact hrounds m hcreated hrole

end

/-- An agent with a tool that waits until it is canceled, and a turn of its provider that calls for
the tool. -/
def patientAgent : Agent :=
  ⟨"a", "a", 0, default, .ofList [(⟨"wait", "", [], []⟩, .patient)], none, 1000⟩

@[inherit_doc patientAgent]
def callsTool : ScriptedTurn :=
  .stream none [.complete ⟨"", [⟨"c", "wait", "", true⟩], .zero, .toolUse⟩] false

/-- A turn that is canceled while its tool is on its errand. -/
theorem exists_canceled_run :
    ∃ (roster : Roster) (sources : List Source) (store : WatchedStore) (bench : Workbench)
      (before moves : List DeskMove) (m : Message), m.toolCalls ≠ [] ∧
      deliveries 0 (openOn roster sources store bench) (before ++ moves) = [.error .canceled] ∧
      ClosesCanceled m.id (trace 0 ((openOn roster sources store bench).run before) moves) := by
  obtain ⟨-, honce, hends, hcloses⟩ := canceled_run
    (rfl : _ = (openOn ⟨[patientAgent], [], 4⟩ [.script (.ofTurns [callsTool])]
      (.ofStore (.memory .empty) []) ⟨default, default, default⟩).run
        ([.forkToken none, .submit 0 0 "s" "hello" []] ++
          List.replicate 12 (.step (.turn 0)) ++ [.step (.toolOf 0), .cancel 0 "s"]))
    (i := 0) rfl (by decide +kernel) (List.replicate 7 (.step (.turn 0)))
  obtain ⟨outcome, houtcome⟩ := Option.isSome_iff_exists.mp (hends (by decide +kernel))
  obtain ⟨rfl, hmessage⟩ := hcloses _ outcome rfl trivial (by decide +kernel) houtcome
  rw [houtcome] at honce
  exact ⟨_, _, _, _, _, _, _, by decide +kernel, honce, hmessage _ (.inl rfl)⟩

end Desk

end AgentDesk
