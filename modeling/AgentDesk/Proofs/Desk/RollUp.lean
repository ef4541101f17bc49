import AgentDesk.Proofs.Desk.Accounting
import Mathlib.Algebra.Order.BigOperators.Group.List
/-!
# What a delegation charges its caller

When the turn of a sub-agent is over, its delegation reads the cost of the session of the task and
adds it to the session of the caller. That cost is whatever the session of the task has cost so far:
it is what the sub-agent has just cost if the session was new, and more if it was used before. A
delegation that is given up before it comes to that charges nothing, whatever its sub-agent costs.

## Main definitions

* `Desk.rollUps` — the costs that the errand in a place rolls up.
* `Desk.Reserved` — nobody else writes the accounts of a caller and of a task.
* `GrownBy` — an account has grown by some costs, and is the same otherwise.
* `Delegated` — a delegation whose sub-agent was started.
* `Delegated.Pending`, `Delegated.Charged` — before and behind the charge.
-/

namespace AgentDesk

/-- The cost that an errand is about to charge its caller. -/
def Errand.charge? (e : Errand) : Option Float :=
  match e.stage with
  | .delegating _ _ (.saving child _ _) => some child.cost
  | _ => none

/-- Whether an errand has ended with an answer. -/
def Errand.isAnswered (e : Errand) : Bool :=
  match e.stage with
  | .ended (.ok _) => true
  | _ => false

/-- Whether a move is a step of a given task. -/
def DeskMove.isStep (k : TaskId) : DeskMove → Bool
  | .step j => decide (j = k)
  | _ => false

theorem DeskMove.isStep_iff {k : TaskId} {m : DeskMove} : m.isStep k ↔ m = .step k := by
  cases m with
  | step j => simp [isStep]
  | _ => exact iff_of_false Bool.false_ne_true fun h => by cases h

/-- An account has grown by exactly the sum of some costs, and nothing else of it has changed. -/
structure GrownBy (costs : List Float) (before behind : Account) : Prop where
  cost : exactValue behind.cost = exactValue before.cost + (costs.map exactValue).sum
  rest : { behind with cost := before.cost } = before

namespace Desk

/-- The cost that the errand in a place charges its caller in a move. -/
def rollUp? (k : TaskId) (d : Desk) : DeskMove → Option Float
  | .step j =>
    if j = k ∧ ((d.move (.step j)).errandOf? k).any Errand.isAnswered then
      (d.errandOf? k).bind Errand.charge?
    else none
  | _ => none

/-- The costs that the errand in a place charges its caller in some moves. -/
def rollUps (k : TaskId) : Desk → List DeskMove → List Float
  | _, [] => []
  | d, m :: moves => (d.rollUp? k m).toList ++ rollUps k (d.move m) moves

/-- In some moves nobody but the errand in a place and a turn changes the accounts of two sessions,
and no other errand takes the place. -/
def Reserved (k : TaskId) (i : Nat) (caller task : String) : Desk → List DeskMove → Prop
  | _, [] => True
  | d, m :: moves =>
    ((m.isStep k ∨ m.isStep (.turn i) ∨
        (d.move m).account caller = d.account caller ∧ (d.move m).account task = d.account task) ∧
      ∀ e ∈ (d.move m).errandOf? k, ¬ e.Begins) ∧
    Reserved k i caller task (d.move m) moves

instance decidableReserved (k : TaskId) (i : Nat) (caller task : String) :
    (d : Desk) → (moves : List DeskMove) → Decidable (Reserved k i caller task d moves)
  | _, [] => isTrue trivial
  | d, m :: moves =>
    have := decidableReserved k i caller task (d.move m) moves
    inferInstanceAs (Decidable (((m.isStep k ∨ m.isStep (.turn i) ∨
      (d.move m).account caller = d.account caller ∧ (d.move m).account task = d.account task) ∧
      ∀ e ∈ (d.move m).errandOf? k, ¬ e.Begins) ∧ Reserved k i caller task (d.move m) moves))

variable {d d' : Desk} {i : Nat} {k : TaskId} {m : DeskMove}

/-! ## Stores and turns -/

theorem words_move (h : d.store.store.Words) (m : DeskMove) : (d.move m).store.store.Words := by
  rcases d.called_move m with hsame | ⟨now, c, -, hcall⟩
  · rwa [hsame]
  · rw [hcall]
    exact h.answer now c

theorem words_run (moves : List DeskMove) (h : d.store.store.Words) :
    (d.run moves).store.store.Words := by
  induction moves generalizing d with
  | nil => exact h
  | cons m moves ih => exact ih (words_move h m)

/-- The course of a turn is over. -/
def IsOver (d : Desk) (i : Nat) : Prop :=
  ∃ t outcome, d.cards[i]? = some t ∧ t.stage.result? = some outcome

theorem IsOver.move (h : d.IsOver i) (m : DeskMove) : (d.move m).IsOver i := by
  obtain ⟨t, outcome, ht, hresult⟩ := h
  obtain ⟨-, stage, ht', hresult'⟩ := over_run [m] ht hresult
  exact ⟨_, outcome, ht', hresult'⟩

/-- A turn that is over exchanges nothing. -/
theorem IsOver.exchange?_eq_none (h : d.IsOver i) : d.exchange? i = none := by
  obtain ⟨t, outcome, ht, hresult⟩ := h
  obtain ⟨htrace, -⟩ := over_run [.step (.turn i)] ht hresult
  simpa [trace, DeskMove.pick_self] using htrace

theorem IsOver.of_outcomeOf? {outcome : TurnOutcome} (h : d.outcomeOf? i = some outcome) :
    d.IsOver i := by
  obtain ⟨t, ht, houtcome⟩ := Option.bind_eq_some_iff.mp h
  refine ⟨t.card, outcome, by simp [cards, ht], ?_⟩
  unfold TurnTask.outcome? at houtcome
  split at houtcome <;> cases houtcome
  rename_i hstage
  rw [TurnTask.card, hstage]
  rfl

/-- A turn that is over owes nothing. -/
theorem IsOver.bill_eq {t : TurnTask} (h : d.IsOver i) (ht : d.cards[i]? = some t) :
    t.stage.bill = .paid := by
  obtain ⟨t', outcome, ht', hresult⟩ := h
  obtain rfl := Option.some.inj (ht'.symm.trans ht)
  cases hstage : t'.stage with
  | working p =>
    rw [hstage] at hresult
    cases hresult
  | unregistering | delivering | ended => rfl

end Desk

/-! ## One delegation -/

/-- A delegation whose sub-agent was started: where it stands, the turn of the sub-agent, and the
accounts of the caller and of the task at that moment. -/
structure Delegated where
  place : TaskId
  peer : PostId
  setup : DelegationSetup
  turn : Nat
  agent : TurnTask
  own : Account
  start : Account

namespace Delegated

/-- The session of the task. -/
def task (g : Delegated) : String := g.agent.setup.sessionId

/-- The account of the task behind some answers of the sub-agent. -/
def spent (g : Delegated) (answers : List Tokens) : Account :=
  g.start.accrued g.agent.setup.model answers

/-- The account of the caller behind some answers of the sub-agent, before it is charged for them.
-/
def uncharged (g : Delegated) (answers : List Tokens) : Account :=
  if g.setup.caller = g.task then g.spent answers else g.own

end Delegated

/-- What a delegation has come to know of accounts since its sub-agent was started. -/
def DelegationPhase.Tallies (g : Delegated) (d : Desk) : DelegationPhase → Prop
  | .awaiting task turn => task = g.task ∧ turn = g.turn
  | .pricing task _ => task = g.task ∧ d.IsOver g.turn
  | .charging child _ => child.cost = (d.account g.task).cost ∧ d.IsOver g.turn
  | .saving child parent _ => child.cost = (d.account g.task).cost ∧ d.IsOver g.turn ∧
      parent.id = g.setup.caller ∧
      parent.account = (d.account g.setup.caller).charged child.cost
  | _ => False

namespace Delegated

/-- The caller was not charged yet: the delegation is on its way to that, or has failed, or was
given up. -/
structure Pending (g : Delegated) (answers : List Tokens) (d : Desk) : Prop where
  turn : ∃ stage, d.cards[g.turn]? = some { g.agent with stage } ∧
    stage.bill.Fits g.agent.setup.model g.task g.start (d.account g.task) answers
  caller : g.setup.caller ≠ g.task → d.account g.setup.caller = g.own
  errand : ∀ e, d.errandOf? g.place = some e →
    (∃ p : DelegationPhase, e.stage = .delegating g.peer g.setup p ∧ p.Tallies g d) ∨
      ∃ failure, e.stage = .ended (.error failure)

/-- The caller was charged. -/
structure Charged (g : Delegated) (answers : List Tokens) (c : Float) (d : Desk) : Prop where
  ended : d.IsOver g.turn
  cost : AlikeFloat c (g.spent answers).cost
  caller : (d.account g.setup.caller).Alike ((g.uncharged answers).charged c)
  errand : ∀ e, d.errandOf? g.place = some e → ∃ outcome, e.stage = .ended outcome

variable {g : Delegated} {answers : List Tokens} {c : Float} {d : Desk} {m : DeskMove}

open Desk

/-- What is known stays true while the accounts stay as they are. -/
theorem tallies_move {p : DelegationPhase} (h : p.Tallies g d)
    (hcaller : (d.move m).account g.setup.caller = d.account g.setup.caller)
    (htask : (d.move m).account g.task = d.account g.task) : p.Tallies g (d.move m) := by
  cases p with
  | awaiting task turn => exact h
  | pricing task outcome => exact ⟨h.1, h.2.move m⟩
  | charging child outcome => exact ⟨htask ▸ h.1, h.2.move m⟩
  | saving child parent outcome =>
    obtain ⟨hcost, hover, hid, haccount⟩ := h
    exact ⟨htask ▸ hcost, hover.move m, hid, hcaller ▸ haccount⟩
  | inspecting | opening | starting => exact h

/-- The turn of the sub-agent is over: the accounts are those behind all its answers. -/
theorem Pending.settled (h : g.Pending answers d) (hover : d.IsOver g.turn) :
    (d.account g.task).Alike (g.spent answers) ∧
      (d.account g.setup.caller).Alike (g.uncharged answers) := by
  obtain ⟨stage, hcard, hfits⟩ := h.turn
  have hbill : stage.bill = .paid := hover.bill_eq hcard
  rw [hbill] at hfits
  refine ⟨hfits, ?_⟩
  unfold uncharged
  split
  · rename_i hsame
    rw [hsame]
    exact hfits
  · rename_i hne
    rw [h.caller hne]
    exact .refl _

/-- A move without an exchange of the sub-agent, and without a change of the accounts. -/
theorem Pending.move (h : g.Pending answers d)
    (hpick : m.pick g.turn (d.exchange? g.turn) = none)
    (hcaller : (d.move m).account g.setup.caller = d.account g.setup.caller)
    (htask : (d.move m).account g.task = d.account g.task)
    (herrand : ∀ e, (d.move m).errandOf? g.place = some e →
      (∃ p : DelegationPhase, e.stage = .delegating g.peer g.setup p ∧ p.Tallies g (d.move m)) ∨
        ∃ failure, e.stage = .ended (.error failure)) : g.Pending answers (d.move m) := by
  refine ⟨?_, fun hne => hcaller.trans (h.caller hne), herrand⟩
  obtain ⟨stage, hcard, hfits⟩ := h.turn
  obtain ⟨stage', hcard', ⟨-, hbill⟩ | ⟨x, rfl, hx, -⟩⟩ := bill_move hcard m
  · refine ⟨stage', hcard', ?_⟩
    rw [hbill, htask]
    exact hfits
  · cases ((DeskMove.pick_self _ _).trans hx).symm.trans hpick

/-- A move that has nothing to do with the delegation. -/
theorem Pending.rests (h : g.Pending answers d)
    (hpick : m.pick g.turn (d.exchange? g.turn) = none)
    (hcaller : (d.move m).account g.setup.caller = d.account g.setup.caller)
    (htask : (d.move m).account g.task = d.account g.task)
    (hsame : ∀ e, (d.move m).errandOf? g.place = some e → d.errandOf? g.place = some e) :
    g.Pending answers (d.move m) := by
  refine h.move hpick hcaller htask fun e he => ?_
  rcases h.errand e (hsame e he) with ⟨p, hstage, htallies⟩ | hfailed
  · exact .inl ⟨p, hstage, tallies_move htallies hcaller htask⟩
  · exact .inr hfailed

/-- **An exchange of the sub-agent** charges the session of the task. -/
theorem Pending.works {x : Exchange} (h : g.Pending answers d) (hfiled : d.Filed)
    (hx : d.exchange? g.turn = some x) (hkept : x.Kept)
    (hsame : ∀ e, (d.move (.step (.turn g.turn))).errandOf? g.place = some e →
      d.errandOf? g.place = some e) :
    g.Pending (answers ++ x.completion?.toList) (d.move (.step (.turn g.turn))) := by
  obtain ⟨stage, hcard, hfits⟩ := h.turn
  refine ⟨?_, fun hne => ?_, fun e he => ?_⟩
  · obtain ⟨stage', hcard', hgoes⟩ := bill_exchange hcard hx
    have hfits' := fits_step hfiled hcard hx hkept hgoes hfits
    exact ⟨stage', hcard', hfits'⟩
  · exact (account_step_of_ne hfiled hcard hx (Ne.symm hne)).trans (h.caller hne)
  · rcases h.errand e (hsame e he) with ⟨p, hstage, htallies⟩ | hfailed
    · refine .inl ⟨p, hstage, ?_⟩
      have hwork : ¬ d.IsOver g.turn := fun hover => by
        cases hover.exchange?_eq_none.symm.trans hx
      cases p with
      | awaiting task turn => exact htallies
      | pricing task outcome => exact absurd htallies.2 hwork
      | charging child outcome => exact absurd htallies.2 hwork
      | saving child parent outcome => exact absurd htallies.2.1 hwork
      | inspecting | opening | starting => exact htallies
    · exact .inr hfailed

/-! ## Steps of the delegation -/

/-- An errand that was not charged for has no answer. -/
theorem Pending.rollUp?_eq_none (h : g.Pending answers (d.move m)) :
    d.rollUp? g.place m = none := by
  have hunanswered : ((d.move m).errandOf? g.place).any Errand.isAnswered = false := by
    cases he : (d.move m).errandOf? g.place with
    | none => rfl
    | some e =>
      rcases h.errand e he with ⟨p, hstage, -⟩ | ⟨failure, hstage⟩ <;>
        simp [Errand.isAnswered, hstage]
  cases m with
  | step j =>
    rw [rollUp?, hunanswered]
    simp
  | _ => rfl

/-- A step of the delegation that leaves the accounts as they are. -/
theorem Pending.asks {e e' : Errand} {d' : Desk} (h : g.Pending answers d)
    (hplace : ∀ i, g.place ≠ .turn i) (he : d.errandOf? g.place = some e)
    (hstep : d.stepErrand? e = some (e', d'))
    (hsame : ∀ session, d'.account session = d.account session)
    (hnext : (∀ session, (d.move (.step g.place)).account session = d.account session) →
      (∃ p : DelegationPhase, e'.stage = .delegating g.peer g.setup p ∧
        p.Tallies g (d.move (.step g.place))) ∨
      ∃ failure, e'.stage = .ended (.error failure)) :
    g.Pending answers (d.move (.step g.place)) := by
  obtain ⟨hplaced, hstore⟩ := errandOf?_step he hstep
  have hmoved : ∀ session, (d.move (.step g.place)).account session = d.account session := by
    intro session
    rw [← hsame session, account, account, hstore]
  refine h.move (DeskMove.pick_of_ne fun hm => hplace _ (DeskMove.step.inj hm)) (hmoved _)
    (hmoved _) fun e₁ he₁ => ?_
  obtain rfl := Option.some.inj (hplaced.symm.trans he₁)
  exact hnext hmoved

/-- A delegation that reads a session leaves every account as it was. -/
theorem account_of_inspected {e : Errand} {peer : PostId} {id : String} {d' : Desk}
    {reply : Except StoreFailure Session} (hfiled : d.Filed)
    (h : d.answerDelegation? e peer (.readSession id) = some (reply, d')) :
    (∀ session, d'.account session = d.account session) ∧
      ∀ x, reply = .ok x → x.id = id ∧ x.account = d.account id := by
  constructor
  · intro session
    exact (called_answerDelegation? h).account_eq fun hfiles => by cases hfiles
  · rintro x rfl
    obtain ⟨hresult, -⟩ := read_of_answer h
    exact (Store.account_getSession hresult).imp_left fun hid => hid hfiled.store

/-- A delegation that cannot save a session leaves every account as it was. -/
theorem account_of_refused {e : Errand} {peer : PostId} {x : Session} {failure : StoreFailure}
    {d' : Desk} (h : d.answerDelegation? e peer (.saveSession x) =
      some ((.error failure : Except StoreFailure Session), d')) (session : String) :
    d'.account session = d.account session := by
  have hreply : (d.perform .saveSession fun now => Store.saveSession now x).1 = .error failure :=
    congrArg Prod.fst (Option.some.inj h)
  obtain rfl : (d.perform .saveSession fun now => Store.saveSession now x).2 = d' :=
    congrArg Prod.snd (Option.some.inj h)
  unfold perform WatchedStore.perform at hreply ⊢
  cases hplan : d.store.nextOutage? .saveSession with
  | some outage => rfl
  | none =>
    rw [hplan] at hreply
    exact Store.account_saveSession_error hreply session

/-- A delegation that saves the session of its caller charges the account of the caller. -/
theorem account_of_charged {e : Errand} {peer : PostId} {parent x : Session} {d' : Desk}
    (hwords : d.store.store.Words) (hparent : parent.account = (d.account parent.id).charged c)
    (h : d.answerDelegation? e peer (.saveSession parent) =
      some ((.ok x : Except StoreFailure Session), d')) :
    (d'.account parent.id).Alike ((d.account parent.id).charged c) := by
  obtain ⟨hresult, hstore⟩ := saved_of_answer h
  have hprompt : parent.promptTokens = (d.account parent.id).promptTokens :=
    congrArg Account.promptTokens hparent
  have hcompletion : parent.completionTokens = (d.account parent.id).completionTokens :=
    congrArg Account.completionTokens hparent
  have hlink : (d.account parent.id).parent = parent.parent :=
    (congrArg Account.parent hparent).symm
  obtain ⟨hprompt', hcompletion'⟩ := hwords.counters hresult hprompt hcompletion
  rw [← hparent, account, hstore]
  exact Store.account_saveSession hresult hprompt' hcompletion' hlink

/-- **The delegation saves the session of its caller**, or it fails to. -/
theorem Pending.saves {e e' : Errand} {d' : Desk} {child parent : Session}
    {outcome : Except TurnFailure Message} (h : g.Pending answers d)
    (hplace : ∀ i, g.place ≠ .turn i) (hwords : d.store.store.Words)
    (he : d.errandOf? g.place = some e)
    (hstage : e.stage = .delegating g.peer g.setup (.saving child parent outcome))
    (htallies : (DelegationPhase.saving child parent outcome).Tallies g d)
    (hstep : d.stepErrand? e = some (e', d')) :
    g.Pending answers (d.move (.step g.place)) ∨
      d.rollUp? g.place (.step g.place) = some child.cost ∧
        g.Charged answers child.cost (d.move (.step g.place)) := by
  obtain ⟨hcost, hover, hid, haccount⟩ := htallies
  obtain ⟨hplaced, hstore⟩ := errandOf?_step he hstep
  obtain ⟨reply, hanswer, rfl⟩ := answer_of_stepErrand? hstage hstep
  rw [← hid] at haccount
  cases (reply : Except StoreFailure Session) with
  | error failure =>
    exact .inl (h.asks hplace he hstep (account_of_refused hanswer) fun _ => .inr ⟨_, rfl⟩)
  | ok x =>
    refine .inr ⟨?_, hover.move _, ?_, ?_, fun e₁ he₁ => ?_⟩
    · simp only [rollUp?, hplaced, he, Option.bind_some, Errand.charge?, hstage]
      exact if_pos ⟨trivial, rfl⟩
    · rw [hcost]
      exact (h.settled hover).1.2
    · have hbehind := account_of_charged hwords haccount hanswer
      rw [hid] at hbehind
      rw [account, hstore]
      exact hbehind.trans ((h.settled hover).2.charged _)
    · obtain rfl := Option.some.inj (hplaced.symm.trans he₁)
      exact ⟨_, rfl⟩

/-- **A step of the delegation** keeps what is known, or charges the caller. -/
theorem Pending.own (h : g.Pending answers d) (hplace : ∀ i, g.place ≠ .turn i)
    (hfiled : d.Filed) (hwords : d.store.store.Words) :
    g.Pending answers (d.move (.step g.place)) ∨
      ∃ c, d.rollUp? g.place (.step g.place) = some c ∧
        g.Charged answers c (d.move (.step g.place)) := by
  cases he : d.errandOf? g.place with
  | none =>
    rw [move_of_errandOf?_eq_none hplace he]
    exact .inl h
  | some e =>
    cases hstep : d.stepErrand? e with
    | none =>
      rw [move_of_stepErrand?_eq_none he hstep]
      exact .inl h
    | some r =>
      obtain ⟨e', d'⟩ := r
      rcases h.errand e he with ⟨p, hstage, htallies⟩ | ⟨failure, hstage⟩
      · obtain ⟨reply, hanswer, rfl⟩ := answer_of_stepErrand? hstage hstep
        cases p with
        | awaiting task turn =>
          obtain ⟨rfl, rfl⟩ := htallies
          simp only [DelegationPhase.request, answerDelegation?] at hanswer
          split at hanswer <;> cases hanswer
          rename_i houtcome
          have hover : d.IsOver g.turn := .of_outcomeOf? houtcome
          exact .inl (h.asks hplace he hstep (fun _ => rfl) fun _ =>
            .inl ⟨_, rfl, rfl, hover.move _⟩)
        | pricing task outcome =>
          obtain ⟨rfl, hover⟩ := htallies
          obtain ⟨hsame, hread⟩ := account_of_inspected hfiled hanswer
          refine .inl (h.asks hplace he hstep hsame fun hmoved => ?_)
          cases (reply : Except StoreFailure Session) with
          | error failure => exact .inr ⟨_, rfl⟩
          | ok child =>
            refine .inl ⟨.charging child outcome, rfl, ?_, hover.move _⟩
            rw [hmoved]
            exact congrArg Account.cost (hread child rfl).2
        | charging child outcome =>
          obtain ⟨hcost, hover⟩ := htallies
          obtain ⟨hsame, hread⟩ := account_of_inspected hfiled hanswer
          refine .inl (h.asks hplace he hstep hsame fun hmoved => ?_)
          cases (reply : Except StoreFailure Session) with
          | error failure => exact .inr ⟨_, rfl⟩
          | ok parent =>
            obtain ⟨hid, haccount⟩ := hread parent rfl
            refine .inl ⟨.saving child (Usage.rollUp child parent) outcome, rfl, ?_, hover.move _,
              hid, ?_⟩
            · rw [hmoved, hcost]
            · rw [hmoved, Usage.account_rollUp, haccount]
        | saving child parent outcome =>
          exact (h.saves hplace hwords he hstage htallies hstep).imp_right fun hcharged =>
            ⟨_, hcharged⟩
        | inspecting | opening | starting => exact htallies.elim
      · cases (stepErrand?_eq_none hstage).symm.trans hstep

/-! ## Whole runs -/

/-- Behind a move of somebody else, the errand in the place is the one that was there. -/
theorem errandOf?_of_reserved {e : Errand} (hm : m ≠ .step g.place)
    (hnew : ∀ e ∈ (d.move m).errandOf? g.place, ¬ e.Begins)
    (he : (d.move m).errandOf? g.place = some e) : d.errandOf? g.place = some e :=
  (errandOf?_move hm he).resolve_right (hnew e he)

/-- A delegation that has charged its caller charges nothing more. -/
theorem Charged.move (h : g.Charged answers c d) (hplace : ∀ i, g.place ≠ .turn i)
    (hcaller : m.isStep g.place ∨ m.isStep (.turn g.turn) ∨
      (d.move m).account g.setup.caller = d.account g.setup.caller ∧
        (d.move m).account g.task = d.account g.task)
    (hnew : ∀ e ∈ (d.move m).errandOf? g.place, ¬ e.Begins) :
    d.rollUp? g.place m = none ∧ g.Charged answers c (d.move m) := by
  have hrests : m = .step g.place → d.move m = d := by
    rintro rfl
    cases he : d.errandOf? g.place with
    | none => exact move_of_errandOf?_eq_none hplace he
    | some e =>
      obtain ⟨outcome, hstage⟩ := h.errand e he
      exact move_of_stepErrand?_eq_none he (stepErrand?_eq_none hstage)
  have haccount : (d.move m).account g.setup.caller = d.account g.setup.caller := by
    rcases hcaller with hm | hm | ⟨hsame, -⟩
    · rw [hrests (DeskMove.isStep_iff.mp hm)]
    · rw [DeskMove.isStep_iff.mp hm]
      exact account_of_exchange?_eq_none h.ended.exchange?_eq_none _
    · exact hsame
  have hcharge : (d.errandOf? g.place).bind Errand.charge? = none := by
    cases he : d.errandOf? g.place with
    | none => rfl
    | some e =>
      obtain ⟨outcome, hstage⟩ := h.errand e he
      simp [Errand.charge?, hstage]
  refine ⟨?_, h.ended.move m, h.cost, haccount ▸ h.caller, fun e he => ?_⟩
  · cases m with
    | step j => simp [rollUp?, hcharge]
    | _ => rfl
  · by_cases hm : m = .step g.place
    · rw [hrests hm] at he
      exact h.errand e he
    · exact h.errand e (errandOf?_of_reserved hm hnew he)

theorem Charged.run (moves : List DeskMove) (h : g.Charged answers c d)
    (hplace : ∀ i, g.place ≠ .turn i)
    (hreserved : Reserved g.place g.turn g.setup.caller g.task d moves) :
    rollUps g.place d moves = [] ∧ trace g.turn d moves = [] ∧
      g.Charged answers c (d.run moves) := by
  induction moves generalizing d with
  | nil => exact ⟨rfl, rfl, h⟩
  | cons m moves ih =>
    obtain ⟨⟨hcaller, hnew⟩, hrest⟩ := hreserved
    obtain ⟨hnone, hcharged⟩ := h.move hplace hcaller hnew
    obtain ⟨hrolls, htrace, hbehind⟩ := ih hcharged hrest
    refine ⟨by rw [rollUps, hnone, hrolls]; rfl, ?_, hbehind⟩
    rw [trace, htrace, h.ended.exchange?_eq_none, DeskMove.pick, ite_self]
    rfl

/-- **One move** on the way to the charge. -/
theorem Pending.next (h : g.Pending answers d) (hplace : ∀ i, g.place ≠ .turn i)
    (hfiled : d.Filed) (hwords : d.store.store.Words)
    (hkept : ∀ x, m.pick g.turn (d.exchange? g.turn) = some x → x.Kept)
    (hcaller : m.isStep g.place ∨ m.isStep (.turn g.turn) ∨
      (d.move m).account g.setup.caller = d.account g.setup.caller ∧
        (d.move m).account g.task = d.account g.task)
    (hnew : ∀ e ∈ (d.move m).errandOf? g.place, ¬ e.Begins) :
    g.Pending (answers ++ ((m.pick g.turn (d.exchange? g.turn)).bind
        Exchange.completion?).toList) (d.move m) ∨
      m = .step g.place ∧ ∃ c, d.rollUp? g.place m = some c ∧ g.Charged answers c (d.move m) := by
  have hsame : m ≠ .step g.place → ∀ e, (d.move m).errandOf? g.place = some e →
      d.errandOf? g.place = some e := fun hm e he => errandOf?_of_reserved hm hnew he
  by_cases hown : m = .step g.place
  · subst hown
    have hpick : (DeskMove.step g.place).pick g.turn (d.exchange? g.turn) = none :=
      DeskMove.pick_of_ne fun hm => hplace _ (DeskMove.step.inj hm)
    rw [hpick, Option.bind_none, Option.toList_none, List.append_nil]
    exact (h.own hplace hfiled hwords).imp_right fun hcharged => ⟨rfl, hcharged⟩
  · refine .inl ?_
    cases hpick : m.pick g.turn (d.exchange? g.turn) with
    | some x =>
      obtain ⟨rfl, hx⟩ := DeskMove.pick_eq_some hpick
      exact h.works hfiled hx (hkept x hpick) (hsame hown)
    | none =>
      rw [Option.bind_none, Option.toList_none, List.append_nil]
      rcases hcaller with hm | hm | ⟨hcaller, htask⟩
      · exact absurd (DeskMove.isStep_iff.mp hm) hown
      · obtain rfl := DeskMove.isStep_iff.mp hm
        have hnone : d.exchange? g.turn = none := (DeskMove.pick_self _ _).symm.trans hpick
        exact h.rests hpick (account_of_exchange?_eq_none hnone _)
          (account_of_exchange?_eq_none hnone _) (hsame hown)
      · exact h.rests hpick hcaller htask (hsame hown)

/-- **A run of a delegation** charges its caller once at most. -/
theorem Pending.run (moves : List DeskMove) (h : g.Pending answers d)
    (hplace : ∀ i, g.place ≠ .turn i) (hfiled : d.Filed) (hwords : d.store.store.Words)
    (hkept : ∀ x ∈ trace g.turn d moves, x.Kept)
    (hreserved : Reserved g.place g.turn g.setup.caller g.task d moves) :
    rollUps g.place d moves = [] ∧
        g.Pending (answers ++ (trace g.turn d moves).filterMap Exchange.completion?)
          (d.run moves) ∨
      ∃ c, rollUps g.place d moves = [c] ∧
        g.Charged (answers ++ (trace g.turn d moves).filterMap Exchange.completion?) c
          (d.run moves) := by
  induction moves generalizing d answers with
  | nil => exact .inl ⟨rfl, by simpa [trace] using h⟩
  | cons m moves ih =>
    obtain ⟨⟨hcaller, hnew⟩, hrest⟩ := hreserved
    have hkept' : ∀ x ∈ trace g.turn (d.move m) moves, x.Kept :=
      fun x hx => hkept x (List.mem_append_right _ hx)
    have hnow : ∀ x, m.pick g.turn (d.exchange? g.turn) = some x → x.Kept :=
      fun x hx => hkept x (List.mem_append_left _ (by simp [hx]))
    rcases h.next hplace hfiled hwords hnow hcaller hnew with hpending | ⟨rfl, c, hroll, hcharged⟩
    · have hnone := hpending.rollUp?_eq_none
      rw [rollUps, hnone, completions_cons, ← List.append_assoc]
      exact ih hpending (filed_move hfiled m) (words_move hwords m) hkept' hrest
    · obtain ⟨hrolls, htrace, hbehind⟩ := hcharged.run moves hplace hrest
      refine .inr ⟨c, by rw [rollUps, hroll, hrolls]; rfl, ?_⟩
      rw [trace, htrace, DeskMove.pick_of_ne fun hm => hplace _ (DeskMove.step.inj hm)]
      simpa using hbehind

/-! ## What is fair -/

/-- The answers of the sub-agent in some moves. -/
def answersIn (g : Delegated) (d : Desk) (moves : List DeskMove) : List Tokens :=
  (trace g.turn d moves).filterMap Exchange.completion?

/-- What some answers of the sub-agent have cost. -/
def costs (g : Delegated) (answers : List Tokens) : List Float :=
  answers.map (Usage.completionCost g.agent.setup.model)

/-- A delegation is fair to its caller: it charged it for a task whose session had cost nothing
before, or it did not charge it for answers that cost nothing. If the session of the task is that of
the caller, the answers are in its account without any charge, and so they must not have used any
tokens. -/
def Fair (g : Delegated) (answers : List Tokens) (charges : List Float) : Prop :=
  if g.setup.caller = g.task then
    (∀ t ∈ answers, t = ⟨0, 0, 0, 0⟩) ∧
      (charges = [] ∨
        exactValue g.start.cost + ((g.costs answers).map exactValue).sum = 0)
  else
    charges = [] ∧ ((g.costs answers).map exactValue).sum = 0 ∨
      charges ≠ [] ∧ exactValue g.start.cost = 0

instance decidableFair (g : Delegated) (answers : List Tokens) (charges : List Float) :
    Decidable (g.Fair answers charges) :=
  inferInstanceAs (Decidable (if g.setup.caller = g.task then
      (∀ t ∈ answers, t = ⟨0, 0, 0, 0⟩) ∧
        (charges = [] ∨ exactValue g.start.cost + ((g.costs answers).map exactValue).sum = 0)
    else
      charges = [] ∧ ((g.costs answers).map exactValue).sum = 0 ∨
        charges ≠ [] ∧ exactValue g.start.cost = 0))

/-- The sub-agent was just started. -/
structure Starts (g : Delegated) (d : Desk) : Prop where
  turn : ∃ t, d.turns[g.turn]? = some t ∧ t.stage = .working .listing ∧ t.card = g.agent
  errand : ∃ e, d.errandOf? g.place = some e ∧
    e.stage = .delegating g.peer g.setup (.awaiting g.task g.turn)
  own : d.account g.setup.caller = g.own
  start : d.account g.task = g.start

/-- The delegation in a place, if its sub-agent was just started. -/
def starting? (d : Desk) (k : TaskId) : Option Delegated :=
  (d.errandOf? k).bind fun e =>
    match e.stage with
    | .delegating peer setup (.awaiting task turn) =>
      (d.turns[turn]?).bind fun t =>
        match t.stage with
        | .working .listing =>
          if t.setup.sessionId = task then
            some ⟨k, peer, setup, turn, t.card, d.account setup.caller, d.account task⟩
          else none
        | _ => none
    | _ => none

theorem starts_of_starting? {k : TaskId} (h : starting? d k = some g) : g.Starts d := by
  obtain ⟨e, he, h⟩ := Option.bind_eq_some_iff.mp h
  split at h
  · rename_i peer setup task turn hstage
    obtain ⟨t, ht, h⟩ := Option.bind_eq_some_iff.mp h
    split at h
    · rename_i hbegin
      by_cases htask : t.setup.sessionId = task
      · rw [if_pos htask] at h
        cases h
        exact ⟨⟨t, ht, hbegin, rfl⟩, ⟨e, he, htask ▸ hstage⟩, rfl, htask ▸ rfl⟩
      · rw [if_neg htask] at h
        cases h
    · cases h
  · cases h

theorem Starts.pending (h : g.Starts d) : g.Pending [] d := by
  obtain ⟨t, ht, hstage, hcard⟩ := h.turn
  obtain ⟨e, he, hawaits⟩ := h.errand
  refine ⟨⟨g.agent.stage, by simp [cards, ht, hcard], ?_⟩, fun _ => h.own, fun e' he' => ?_⟩
  · have hbill : g.agent.stage.bill = .paid := by
      rw [← hcard, TurnTask.card, hstage]
      rfl
    rw [hbill, h.start]
    exact .refl _
  · obtain rfl := Option.some.inj (he.symm.trans he')
    exact .inl ⟨_, hawaits, rfl, rfl⟩

theorem Starts.place_ne (h : g.Starts d) (i : Nat) : g.place ≠ .turn i := by
  obtain ⟨e, he, -⟩ := h.errand
  intro hplace
  rw [hplace] at he
  cases he

/-- Answers leave all but the cost of an account as it was if they used no tokens. -/
theorem accrued_eq_iff (m : Model) (answers : List Tokens) (a : Account) :
    { a.accrued m answers with cost := a.cost } = a ↔ ∀ t ∈ answers, t = ⟨0, 0, 0, 0⟩ := by
  have hsums : { a.accrued m answers with cost := a.cost } = a ↔
      (answers.map fun t => t.input + t.cacheWrite).sum = 0 ∧
        (answers.map fun t => t.output + t.cacheRead).sum = 0 := by
    obtain ⟨parent, title, prompt, completion, summary, cost⟩ := a
    simp [Account.accrued]
  rw [hsums, List.sum_eq_zero_iff, List.sum_eq_zero_iff]
  constructor
  · rintro ⟨hprompt, hcompletion⟩ ⟨input, output, cacheWrite, cacheRead⟩ ht
    have hp : input + cacheWrite = 0 := hprompt _ (List.mem_map_of_mem ht)
    have hc : output + cacheRead = 0 := hcompletion _ (List.mem_map_of_mem ht)
    simp only [Tokens.mk.injEq]
    omega
  · intro hnone
    constructor <;>
    · intro n hn
      obtain ⟨t, ht, rfl⟩ := List.mem_map.mp hn
      simp [hnone t ht]

/-- **When the law holds**: the account of a caller has grown by what the sub-agent has cost if and
only if the delegation was fair. -/
theorem grownBy_iff {charges : List Float} {behind : Account}
    (hown : g.setup.caller = g.task → g.own = g.start)
    (hcharges : charges = [] ∨ ∃ c, charges = [c] ∧ AlikeFloat c (g.spent answers).cost)
    (hbehind : behind.Alike
      { g.uncharged answers with cost := addAll (g.uncharged answers).cost charges })
    (hspent : AddsExactly g.start.cost (g.costs answers))
    (hcharged : AddsExactly (g.uncharged answers).cost charges) :
    GrownBy (g.costs answers) g.own behind ↔ g.Fair answers charges := by
  have hcost : exactValue behind.cost =
      exactValue (g.uncharged answers).cost + (charges.map exactValue).sum := by
    rw [hbehind.2.exactValue_eq]
    exact exactValue_addAll hcharged
  have hrest : { behind with cost := g.own.cost } =
      { g.uncharged answers with cost := g.own.cost } :=
    congrArg (fun a : Account => { a with cost := g.own.cost }) hbehind.1
  have htotal : exactValue (g.spent answers).cost =
      exactValue g.start.cost + ((g.costs answers).map exactValue).sum :=
    exactValue_addAll hspent
  have hsum : (charges.map exactValue).sum = if charges = [] then 0 else
      exactValue g.start.cost + ((g.costs answers).map exactValue).sum := by
    rcases hcharges with rfl | ⟨c, rfl, hc⟩
    · rfl
    · simp [hc.exactValue_eq, htotal]
  have hlaw : GrownBy (g.costs answers) g.own behind ↔
      exactValue (g.uncharged answers).cost + (charges.map exactValue).sum =
        exactValue g.own.cost + ((g.costs answers).map exactValue).sum ∧
      { g.uncharged answers with cost := g.own.cost } = g.own := by
    rw [← hcost, ← hrest]
    exact ⟨fun h => ⟨h.cost, h.rest⟩, fun h => ⟨h.1, h.2⟩⟩
  rw [hlaw, hsum]
  unfold Fair uncharged
  split
  · rename_i hsame
    rw [hown hsame, htotal]
    have htokens := accrued_eq_iff g.agent.setup.model answers g.start
    rw [show { g.spent answers with cost := g.start.cost } = g.start ↔ _ from htokens]
    by_cases hnone : charges = [] <;> simp [hnone, and_comm]
  · by_cases hnone : charges = []
    · simp [hnone, eq_comm]
    · simp [hnone]

section

variable {roster : Roster} {sources : List Source} {store : WatchedStore} {bench : Workbench}
  {before : List DeskMove}

/-- **What a delegation charges its caller.** Take a delegation whose sub-agent was just started, at
any moment of any run, and let anything happen until the turn of the sub-agent is over, be it with a
message, with a failure, or canceled. As long as the store does what the sub-agent asks for, and
nobody else changes the accounts of the caller and of the task:

* a delegation that ended with an answer has charged its caller;
* it has charged it once at most, and then for all that the session of the task has cost so far;
* the account of the caller has grown by this charge and by nothing else;
* so it has grown by exactly what the sub-agent has just cost if and only if the delegation was
  fair. -/
theorem rolled_up_iff (hd : d = (openOn roster sources store bench).run before)
    (hstore : store.store.Filed) (hwords : store.store.Words) (hstarts : g.Starts d)
    (moves : List DeskMove) (hkept : ∀ x ∈ trace g.turn d moves, x.Kept)
    (hreserved : Reserved g.place g.turn g.setup.caller g.task d moves)
    {outcome : TurnOutcome} (hover : (d.run moves).outcomeOf? g.turn = some outcome) :
    (∀ e, (d.run moves).errandOf? g.place = some e → e.isAnswered →
      rollUps g.place d moves ≠ []) ∧
    (rollUps g.place d moves = [] ∨ ∃ c, rollUps g.place d moves = [c] ∧
      AlikeFloat c (g.spent (g.answersIn d moves)).cost) ∧
    ((d.run moves).account g.setup.caller).Alike
      { g.uncharged (g.answersIn d moves) with
        cost := addAll (g.uncharged (g.answersIn d moves)).cost (rollUps g.place d moves) } ∧
    (AddsExactly g.start.cost (g.costs (g.answersIn d moves)) →
      AddsExactly (g.uncharged (g.answersIn d moves)).cost (rollUps g.place d moves) →
      (GrownBy (g.costs (g.answersIn d moves)) g.own ((d.run moves).account g.setup.caller) ↔
        g.Fair (g.answersIn d moves) (rollUps g.place d moves))) := by
  have hfiled : d.Filed := hd ▸ filed_run before (filed_openOn roster sources bench hstore)
  have hcounters : d.store.store.Words := hd ▸ words_run before hwords
  have hrun := hstarts.pending.run moves hstarts.place_ne hfiled hcounters hkept hreserved
  have hparts : (∀ e, (d.run moves).errandOf? g.place = some e → e.isAnswered →
        rollUps g.place d moves ≠ []) ∧
      (rollUps g.place d moves = [] ∨ ∃ c, rollUps g.place d moves = [c] ∧
        AlikeFloat c (g.spent (g.answersIn d moves)).cost) ∧
      ((d.run moves).account g.setup.caller).Alike
        { g.uncharged (g.answersIn d moves) with
          cost := addAll (g.uncharged (g.answersIn d moves)).cost (rollUps g.place d moves) } := by
    rcases hrun with ⟨hnone, hpending⟩ | ⟨c, hone, hcharged⟩
    · rw [hnone]
      refine ⟨fun e he hanswered => ?_, .inl rfl,
        (hpending.settled (.of_outcomeOf? hover)).2⟩
      rcases hpending.errand e he with ⟨p, hstage, -⟩ | ⟨failure, hstage⟩ <;>
        simp [Errand.isAnswered, hstage] at hanswered
    · rw [hone]
      exact ⟨fun _ _ _ => List.cons_ne_nil c [], .inr ⟨c, rfl, hcharged.cost⟩, hcharged.caller⟩
  obtain ⟨hanswered, hcharges, hbehind⟩ := hparts
  refine ⟨hanswered, hcharges, hbehind, fun hspent hcharged => ?_⟩
  have hown : g.setup.caller = g.task → g.own = g.start := fun hsame => by
    rw [← hstarts.own, ← hstarts.start, hsame]
  exact grownBy_iff hown hcharges hbehind hspent hcharged

end

/-- An agent whose answers cost what they read. -/
def meteredAgent (name : String) (provider : Nat) (tools : List (ToolInfo × ToolBody)) : Agent :=
  ⟨name, name, provider, { Model.blank with inputPrice := 1e6 }, .ofList tools, none, 1000⟩

/-- A turn of a provider with one answer. -/
def answering (tokens : Nat) (calls : List ToolCall) (reason : FinishReason) (hangs : Bool) :
    ScriptedTurn :=
  .stream none [.complete ⟨"", calls, ⟨tokens, 0, 0, 0⟩, reason⟩] hangs

/-- A call for a task has the name of a call before it. -/
def repeatedCall : List DeskMove :=
  [.ask "p" (.delegate 0 "a") ⟨"c", "agent_a", "\x7b\"prompt\":\"go\"\x7d"⟩] ++
    List.replicate 4 (.step (.errand 0)) ++ List.replicate 14 (.step (.turn 0)) ++
    List.replicate 4 (.step (.errand 0)) ++
    [.ask "p" (.delegate 0 "a") ⟨"c", "agent_a", "\x7b\"prompt\":\"on\"\x7d"⟩] ++
    List.replicate 4 (.step (.errand 1))

@[inherit_doc repeatedCall]
def repeatedTask : List DeskMove :=
  List.replicate 14 (.step (.turn 1)) ++ List.replicate 4 (.step (.errand 1))

/-- A turn waits for its tool, which delegates. -/
def waitingTurn : List DeskMove :=
  [.forkToken none, .submit 0 0 "s" "hello" []] ++ List.replicate 12 (.step (.turn 0)) ++
    List.replicate 4 (.step (.toolOf 0))

/-- A turn that waits for its tool is canceled when the sub-agent has given its answer. -/
def canceledWait : List DeskMove :=
  List.replicate 12 (.step (.turn 1)) ++ [.cancel 0 "s"] ++ List.replicate 5 (.step (.turn 0)) ++
    List.replicate 7 (.step (.turn 1))

/-- A delegation that is not fair in some moves, among all that the law asks for. -/
def Unfair (g : Delegated) (d : Desk) (moves : List DeskMove) : Prop :=
  ((∀ x ∈ trace g.turn d moves, x.Kept) ∧
    Reserved g.place g.turn g.setup.caller g.task d moves) ∧
  ((d.run moves).outcomeOf? g.turn).isSome ∧
  (AddsExactly g.start.cost (g.costs (g.answersIn d moves)) ∧
    AddsExactly (g.uncharged (g.answersIn d moves)).cost (rollUps g.place d moves)) ∧
  ¬ g.Fair (g.answersIn d moves) (rollUps g.place d moves)

instance decidableUnfair (g : Delegated) (d : Desk) (moves : List DeskMove) :
    Decidable (g.Unfair d moves) :=
  inferInstanceAs (Decidable (((∀ x ∈ trace g.turn d moves, x.Kept) ∧
      Reserved g.place g.turn g.setup.caller g.task d moves) ∧
    ((d.run moves).outcomeOf? g.turn).isSome ∧
    (AddsExactly g.start.cost (g.costs (g.answersIn d moves)) ∧
      AddsExactly (g.uncharged (g.answersIn d moves)).cost (rollUps g.place d moves)) ∧
    ¬ g.Fair (g.answersIn d moves) (rollUps g.place d moves)))

/-- Two delegations that are not fair: one whose call has the name of a call before it, so that its
task goes on in the session of that one, and one whose caller is canceled while it waits. -/
theorem exists_ungrown_run :
    (∃ (roster : Roster) (sources : List Source) (store : WatchedStore) (bench : Workbench)
      (d : Desk) (g : Delegated),
      d = (openOn roster sources store bench).run repeatedCall ∧ g.Starts d ∧
      ((d.run repeatedTask).errandOf? g.place).any Errand.isAnswered ∧
      ¬ GrownBy (g.costs (g.answersIn d repeatedTask)) g.own
        ((d.run repeatedTask).account g.setup.caller)) ∧
    ∃ (roster : Roster) (sources : List Source) (store : WatchedStore) (bench : Workbench)
      (d : Desk) (g : Delegated),
      d = (openOn roster sources store bench).run waitingTurn ∧ g.Starts d ∧
      (d.run canceledWait).errandOf? g.place = none ∧
      ¬ GrownBy (g.costs (g.answersIn d canceledWait)) g.own
        ((d.run canceledWait).account g.setup.caller) := by
  have hlaw : ∀ {roster : Roster} {sources : List Source} {bench : Workbench}
      {before moves : List DeskMove} {d : Desk} {g : Delegated},
      d = (openOn roster sources (.ofStore (.memory .empty) []) bench).run before →
      g.Starts d → g.Unfair d moves →
      ¬ GrownBy (g.costs (g.answersIn d moves)) g.own
        ((d.run moves).account g.setup.caller) := by
    rintro roster sources bench before moves d g hd hstarts
      ⟨⟨hkept, hreserved⟩, hover, ⟨hspent, hcharged⟩, hunfair⟩
    obtain ⟨outcome, hover⟩ := Option.isSome_iff_exists.mp hover
    have hfiled : (Store.memory .empty).Filed := fun _ _ h => by cases h
    obtain ⟨-, -, -, hiff⟩ := rolled_up_iff hd hfiled trivial hstarts moves hkept hreserved hover
    exact mt (hiff hspent hcharged).mp hunfair
  constructor
  · obtain ⟨d, hd⟩ : ∃ d, d = (openOn ⟨[meteredAgent "a" 0 []], [], 4⟩
        [.script (.ofTurns [answering 2 [] .endTurn false, answering 3 [] .endTurn false])]
        (.ofStore (.memory .empty) []) ⟨default, default, default⟩).run repeatedCall := ⟨_, rfl⟩
    have hstarts : (starting? d (.errand 1)).isSome := by
      rw [hd]
      decide +kernel
    have hfacts : ∀ g ∈ starting? d (.errand 1), g.Unfair d repeatedTask ∧
        ((d.run repeatedTask).errandOf? g.place).any Errand.isAnswered := by
      rw [hd]
      decide +kernel
    obtain ⟨g, hg⟩ := Option.isSome_iff_exists.mp hstarts
    obtain ⟨hunfair, hanswered⟩ := hfacts g hg
    have hstarts := starts_of_starting? hg
    exact ⟨_, _, _, _, d, g, hd, hstarts, hanswered, hlaw hd hstarts hunfair⟩
  · obtain ⟨d, hd⟩ : ∃ d, d = (openOn ⟨[
          meteredAgent "a" 0 [(⟨"agent_b", "", [], []⟩, .delegate 1 "b")], meteredAgent "b" 1 []],
          [], 4⟩
        [.script (.ofTurns [answering 1
          [⟨"c", "agent_b", "\x7b\"prompt\":\"go\"\x7d", true⟩] .toolUse false]),
          .script (.ofTurns [answering 2 [] .endTurn true])]
        (.ofStore (.memory .empty) []) ⟨default, default, default⟩).run waitingTurn := ⟨_, rfl⟩
    have hstarts : (starting? d (.toolOf 0)).isSome := by
      rw [hd]
      decide +kernel
    have hfacts : ∀ g ∈ starting? d (.toolOf 0), g.Unfair d canceledWait ∧
        ((d.run canceledWait).errandOf? g.place).isNone := by
      rw [hd]
      decide +kernel
    obtain ⟨g, hg⟩ := Option.isSome_iff_exists.mp hstarts
    obtain ⟨hunfair, hnone⟩ := hfacts g hg
    have hstarts := starts_of_starting? hg
    exact ⟨_, _, _, _, d, g, hd, hstarts, Option.isNone_iff_eq_none.mp hnone,
      hlaw hd hstarts hunfair⟩

end Delegated

end AgentDesk
