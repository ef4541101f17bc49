import AgentDesk.Proofs.Desk.Accounting
import AgentDesk.Proofs.Store.Lineage
/-!
# The limit of nested delegations

Before it opens a session for its task, a delegation climbs from the session of its caller to the
last ancestor and counts. Sessions keep their parents while it climbs and until the task is opened,
so what it has counted stays true, and no session comes to have more ancestors than the limit
allows. A climb looks at no more sessions than that, so it ends in every store, even where ancestors
go round in a circle.

## Main definitions

* `DelegationPhase.Knows` — what a delegation knows of the sessions in the store.
* `Desk.Descended` — the lineages on a desk are bounded, and everybody who is about to write a
  session knows its parent.
* `Happening` — a move of a desk, or a call of its store by somebody else.
-/

namespace AgentDesk

/-! ## What delegations know -/

/-- What a delegation knows of the sessions in the store: the way it has come, that its caller has
fewer ancestors than the limit, and the parent of the session that it saves. -/
def DelegationPhase.Knows (setup : DelegationSetup) (s : Store) : DelegationPhase → Prop
  | .inspecting session depth => s.ancestor? depth setup.caller = some session
  | .opening => s.Has setup.caller ∧ s.ancestor? setup.maxDepth setup.caller = none
  | .saving _ parent _ => s.Has parent.id ∧ parent.parent = s.parentOf? parent.id
  | _ => True

@[inherit_doc DelegationPhase.Knows]
def DelegationProgress.Knows (setup : DelegationSetup) (s : Store) : DelegationProgress → Prop
  | .next p => p.Knows setup s
  | .stop _ => True

/-- What an errand knows, if it delegates under a limit. -/
def Errand.Knows (e : Errand) (max : Nat) (s : Store) : Prop :=
  match e.stage with
  | .delegating _ setup phase => setup.maxDepth = max ∧ phase.Knows setup s
  | _ => True

theorem Errand.Begins.knows {e : Errand} (h : e.Begins) (max : Nat) (s : Store) :
    e.Knows max s := by
  obtain ⟨body, hstage⟩ := h
  rw [Knows, hstage]
  trivial

theorem Called.extends {call? : Option StoreCall} {s s' : Store} {max : Nat}
    (h : Called call? s s') (hkeeps : ∀ c, call? = some c → c.Keeps s max) : s.Extends max s' := by
  rcases h with rfl | ⟨now, c, rfl, rfl⟩
  · exact .refl _ max
  · exact Store.extends_answer (hkeeps c rfl) now

namespace DelegationPhase

variable {setup : DelegationSetup} {s s' : Store} {p : DelegationPhase}

/-- What a delegation knows stays true. -/
theorem Knows.extends (h : p.Knows setup s) (hs : s.Rooted setup.maxDepth)
    (hx : s.Extends setup.maxDepth s') : p.Knows setup s' := by
  cases p with
  | inspecting session depth => exact hx.ancestor?_some depth h
  | opening => exact ⟨hx.has h.1, (hx.ancestor?_eq hs.closed _ h.1).trans h.2⟩
  | saving child parent outcome => exact ⟨hx.has h.1, h.2.trans (hx.parentOf?_eq h.1).symm⟩
  | starting | awaiting | pricing | charging => trivial

theorem knows_consider {depth : Nat} (hhas : s.Has setup.caller)
    (hnone : depth < setup.maxDepth → s.ancestor? setup.maxDepth setup.caller = none) :
    (consider setup depth).Knows setup s := by
  unfold consider
  split
  · trivial
  · rename_i hlt
    exact ⟨hhas, hnone (Nat.lt_of_not_le hlt)⟩

/-- **One step of the climb.** -/
theorem knows_climb {session : String} {depth : Nat} {x : Session} (hhas : s.Has setup.caller)
    (hway : s.ancestor? depth setup.caller = some session)
    (hx : x.parent = s.parentOf? session) : (climb setup depth x).Knows setup s := by
  have hnext : s.ancestor? (depth + 1) setup.caller = x.parent := by
    rw [Store.ancestor?_succ, hway, Option.bind_some, hx]
  unfold climb
  cases hparent : x.parent with
  | none =>
    refine knows_consider hhas fun hlt => ?_
    exact Store.ancestor?_eq_none_of_le (hnext.trans hparent) hlt
  | some parent =>
    dsimp only
    split
    · rename_i hlast
      exact knows_consider hhas fun hlt => absurd hlt (by omega)
    · exact hnext.trans hparent

end DelegationPhase

theorem Errand.Knows.extends {e : Errand} {max : Nat} {s s' : Store} (h : e.Knows max s)
    (hs : s.Rooted max) (hx : s.Extends max s') : e.Knows max s' := by
  unfold Errand.Knows at h ⊢
  split
  · rename_i hstage
    rw [hstage] at h
    obtain ⟨rfl, hknows⟩ := h
    exact ⟨rfl, hknows.extends hs hx⟩
  · trivial

/-- A turn that is about to save a session has it drawn. -/
theorem TurnPhase.bill_of_request {setup : TurnSetup} {p : TurnPhase} {s : Session}
    (h : p.request setup = .saveSession s) : p.bill = .drawn s := by
  cases p <;> cases h
  rfl

namespace Desk

variable {d d' : Desk} {e e' : Errand} {max : Nat}

/-! ## Steps of delegations -/

/-- **A step of a delegation keeps what is known.** -/
theorem knows_resume {peer : PostId} {setup : DelegationSetup} {p : DelegationPhase}
    {reply : (p.request setup).Reply} (hfiled : d.store.store.Filed)
    (h : p.Knows setup d.store.store)
    (hanswer : d.answerDelegation? e peer (p.request setup) = some (reply, d')) :
    (p.resume setup reply).Knows setup d'.store.store := by
  -- A session that was read: what is known of the store behind the call.
  have hread : ∀ {id : String} {x : Session}, d.answerDelegation? e peer (.readSession id) =
      some ((.ok x : Except StoreFailure Session), d') →
      x.id = id ∧ x.parent = d'.store.store.parentOf? id ∧ d'.store.store.Has id ∧
        ∀ j, d'.store.store.parentOf? j = d.store.store.parentOf? j := by
    intro id x hanswer
    obtain ⟨hresult, hstore⟩ := read_of_answer hanswer
    rw [hstore]
    refine ⟨(Store.account_getSession hresult).1 hfiled, ?_, Store.has_getSession _ _ id,
      Store.parentOf?_getSession _ _ id⟩
    rw [Store.parentOf?_getSession]
    exact Store.parent_of_getSession hresult
  cases p with
  | inspecting session depth =>
    cases (reply : Except StoreFailure Session) with
    | error cause => trivial
    | ok x =>
      obtain ⟨-, hparent, hhas, hsame⟩ := hread hanswer
      have hway : d'.store.store.ancestor? depth setup.caller = some session := by
        rw [Store.ancestor?_congr hsame]
        exact h
      have hcaller : d'.store.store.Has setup.caller := by
        cases depth with
        | zero =>
          obtain rfl : setup.caller = session := Option.some.inj hway
          exact hhas
        | succ depth =>
          obtain ⟨parent, hp, -⟩ := Option.bind_eq_some_iff.mp hway
          exact .of_parentOf? hp
      exact DelegationPhase.knows_climb hcaller hway hparent
  | opening =>
    cases (reply : Except StoreFailure Session) with
    | error cause => trivial
    | ok task => trivial
  | starting task =>
    cases (reply : TaskStart) with
    | started turn => trivial
    | busy => trivial
  | awaiting task turn => trivial
  | pricing task outcome =>
    cases (reply : Except StoreFailure Session) with
    | error cause => trivial
    | ok child => trivial
  | charging child outcome =>
    cases (reply : Except StoreFailure Session) with
    | error cause => trivial
    | ok parent =>
      obtain ⟨hid, hparent, hhas, -⟩ := hread hanswer
      exact ⟨hid ▸ hhas, hparent.trans (congrArg _ hid.symm)⟩
  | saving child parent outcome =>
    cases (reply : Except StoreFailure Session) with
    | error cause => trivial
    | ok x => trivial

/-- An errand that begins to delegate stands at the session of its caller. -/
theorem knows_beginErrand (d : Desk) (e : Errand) (body : ToolBody) (s : Store) :
    Errand.Knows { e with stage := ((d.noteStart e).beginErrand e body).1 } d.maxDepth s := by
  cases body with
  | immediate | gated | patient | bench => trivial
  | delegate peer peerId =>
    unfold beginErrand beginDelegation
    dsimp only
    split
    · trivial
    · split
      · trivial
      · exact ⟨rfl, rfl⟩

theorem knows_stepErrand? (hfiled : d.store.store.Filed) (h : e.Knows d.maxDepth d.store.store)
    (hstep : d.stepErrand? e = some (e', d')) : e'.Knows d.maxDepth d'.store.store := by
  obtain ⟨stage, rfl, hgoes⟩ := goes_stepErrand? hstep
  cases hgoes with
  | begins body => exact d.knows_beginErrand e body _
  | ends => trivial
  | delegates peer setup p reply d' hstage hanswer =>
    rw [Errand.Knows, hstage] at h
    obtain ⟨hlimit, hknows⟩ := h
    have hnext := knows_resume hfiled hknows hanswer
    unfold Errand.Knows
    dsimp only
    cases hprogress : p.resume setup reply with
    | next q =>
      rw [hprogress] at hnext
      exact ⟨hlimit, hnext⟩
    | stop outcome => trivial

/-! ## Moves of a desk -/

/-- The lineages on a desk are bounded by its limit of delegations, and everybody who is about to
write a session knows its parent. -/
structure Descended (d : Desk) : Prop where
  filed : d.Filed
  rooted : d.store.store.Rooted d.maxDepth
  drawn : ∀ (i : Nat) (t : TurnTask) (s : Session), d.cards[i]? = some t →
    t.stage.bill = .drawn s →
      d.store.store.Has s.id ∧ s.parent = d.store.store.parentOf? s.id
  errand : ∀ (k : TaskId) (e : Errand), d.errandOf? k = some e → e.Knows d.maxDepth d.store.store

namespace Descended

/-- **Every call of a move keeps the parents of sessions.** -/
theorem keeps_call? (h : d.Descended) {m : DeskMove} {c : StoreCall} (hcall : d.call? m = some c) :
    c.Keeps d.store.store d.maxDepth := by
  have herrand : ∀ k : TaskId, (d.errandOf? k).bind Errand.call? = some c →
      c.Keeps d.store.store d.maxDepth := by
    intro k hcall
    obtain ⟨e, he, hcall⟩ := Option.bind_eq_some_iff.mp hcall
    have hknows := h.errand k e he
    unfold Errand.call? at hcall
    unfold Errand.Knows at hknows
    split at hcall
    · rename_i peer setup p hstage
      rw [hstage] at hknows
      obtain ⟨hlimit, hknows⟩ := hknows
      cases p with
      | inspecting | pricing | charging =>
        cases hcall
        trivial
      | opening =>
        cases hcall
        exact hlimit ▸ hknows
      | saving child parent outcome =>
        cases hcall
        exact hknows.2
      | starting | awaiting => cases hcall
    · cases hcall
  cases m with
  | step k =>
    cases k with
    | toolOf i | errand i => exact herrand _ hcall
    | turn i =>
      obtain ⟨t, ht, hcall⟩ := Option.bind_eq_some_iff.mp hcall
      unfold turnCall? at hcall
      split at hcall
      · rename_i p hstage
        generalize hrequest : p.request t.setup = r at hcall
        cases r with
        | saveSession s =>
          cases hcall
          have hcard : d.cards[i]? = some t.card := by simp [cards, ht]
          have hbill : t.card.stage.bill = .drawn s := by
            rw [TurnTask.card, hstage]
            exact TurnPhase.bill_of_request hrequest
          exact (h.drawn i _ s hcard hbill).2
        | listMessages | readSession | createMessage | updateMessage =>
          cases hcall
          trivial
        | isCanceled | openStream | nextEvent | startTool | awaitTool | drainQueue
          | finishOrTake => cases hcall
      · cases hcall
  | _ => cases hcall

/-- A desk whose store was called while its turns and its errands stayed as they are. -/
theorem drawn_extends (h : d.Descended) {s' : Store} (hx : d.store.store.Extends d.maxDepth s')
    {i : Nat} {t : TurnTask} {s : Session} (ht : d.cards[i]? = some t)
    (hbill : t.stage.bill = .drawn s) : s'.Has s.id ∧ s.parent = s'.parentOf? s.id := by
  obtain ⟨hhas, hparent⟩ := h.drawn i t s ht hbill
  exact ⟨hx.has hhas, hparent.trans (hx.parentOf?_eq hhas).symm⟩

/-- **One move.** -/
theorem move (h : d.Descended) (m : DeskMove) : (d.move m).Descended := by
  have hx : d.store.store.Extends d.maxDepth (d.move m).store.store :=
    (d.called_move m).extends fun c => h.keeps_call?
  refine ⟨filed_move h.filed m, ?_, fun i t s ht hbill => ?_, fun k e he => ?_⟩
  · rw [maxDepth_move]
    exact hx.rooted h.rooted
  · cases hcard : d.cards[i]? with
    | none =>
      rw [card_of_none hcard ht] at hbill
      cases hbill
    | some t₀ =>
      obtain ⟨stage, ht', hgoes⟩ := bill_move hcard m
      obtain rfl := Option.some.inj (ht'.symm.trans ht)
      rcases hgoes with ⟨-, hsame⟩ | ⟨x, rfl, hexchange, hgoes⟩
      · exact h.drawn_extends hx hcard (hsame ▸ hbill)
      · rw [hbill] at hgoes
        generalize t₀.stage.bill = before at hgoes
        cases hgoes with
        | reads tokens x =>
          obtain ⟨t, -, hresult, hstore⟩ := read_of_exchange? hexchange
          have hid : x.id = t.setup.sessionId :=
            (Store.account_getSession hresult).1 h.filed.store
          rw [hstore]
          refine ⟨hid ▸ Store.has_getSession _ _ _, ?_⟩
          rw [Store.parentOf?_getSession]
          exact (Store.parent_of_getSession hresult).trans (congrArg _ hid.symm)
  · rw [maxDepth_move]
    by_cases hm : m = .step k
    · subst hm
      cases hbefore : d.errandOf? k with
      | none =>
        cases k with
        | turn i => cases he
        | toolOf i | errand i =>
          rw [move_of_errandOf?_eq_none (fun _ h => by cases h) hbefore] at he
          cases hbefore.symm.trans he
      | some e₀ =>
        cases hstep : d.stepErrand? e₀ with
        | none =>
          rw [move_of_stepErrand?_eq_none hbefore hstep] at he ⊢
          exact h.errand k e he
        | some r =>
          obtain ⟨e', d'⟩ := r
          obtain ⟨hplace, hstore⟩ := errandOf?_step hbefore hstep
          obtain rfl := Option.some.inj (hplace.symm.trans he)
          rw [hstore]
          exact knows_stepErrand? h.filed.store (h.errand k e₀ hbefore) hstep
    · rcases errandOf?_move hm he with hbefore | hbegins
      · exact Errand.Knows.extends (h.errand k e hbefore) h.rooted hx
      · exact hbegins.knows _ _

end Descended

end Desk

/-! ## Runs among other calls -/

/-- What happens to a desk: a move, or a call of its store by somebody else. -/
inductive Happening where
  | move (m : DeskMove)
  | call (c : StoreCall)

namespace Desk

/-- The desk behind something that happens. -/
def happen (d : Desk) : Happening → Desk
  | .move m => d.move m
  | .call c => { d with store.store := (d.store.store.answer d.now c).store }.tick

/-- No call by somebody else gives a session another parent than it had. -/
def ParentsKept : Desk → List Happening → Prop
  | _, [] => True
  | d, .move m :: hs => ParentsKept (d.move m) hs
  | d, .call c :: hs =>
    (∀ id, (d.happen (.call c)).store.store.parentOf? id = d.store.store.parentOf? id) ∧
      ParentsKept (d.happen (.call c)) hs

namespace ParentsKept

variable {d : Desk} {hs : List Happening}

theorem call {c : StoreCall} (h : c.Keeps d.store.store 0)
    (hrest : (d.happen (.call c)).ParentsKept hs) : d.ParentsKept (.call c :: hs) :=
  ⟨fun id => Store.parentOf?_answer h d.now id, hrest⟩

theorem moves {ms : List DeskMove} (hrest : (d.run ms).ParentsKept hs) :
    d.ParentsKept (ms.map .move ++ hs) := by
  induction ms generalizing d with
  | nil => exact hrest
  | cons m ms ih => exact ih hrest

end ParentsKept

namespace Descended

variable {d : Desk}

/-- **One call by somebody else.** -/
theorem call (h : d.Descended) {c : StoreCall}
    (hsame : ∀ id, (d.happen (.call c)).store.store.parentOf? id = d.store.store.parentOf? id) :
    (d.happen (.call c)).Descended := by
  have hx : d.store.store.Extends d.maxDepth (d.happen (.call c)).store.store :=
    .of_parentOf? (fun _ hid => hid.answer d.now c) hsame
  refine ⟨⟨h.filed.store.answer d.now c, fun i t s ht hbill => h.filed.drawn i t s ht hbill⟩,
    hx.rooted h.rooted, fun i t s ht hbill => h.drawn_extends hx ht hbill, fun k e he => ?_⟩
  have hbefore : d.errandOf? k = some e := by cases k <;> exact he
  exact Errand.Knows.extends (h.errand k e hbefore) h.rooted hx

end Descended

variable {d : Desk} {k : TaskId} {e : Errand} {peer : PostId} {setup : DelegationSetup}

end Desk

end AgentDesk
