import AgentDesk.Proofs.Desk.Calls
import AgentDesk.Proofs.Desk.Cancellation
import AgentDesk.Proofs.Turn.Billing
/-!
# Accounts on a desk

A turn changes the account of a session only when it writes its row, and it writes it only with the
session at hand that it has read under that name. What it writes is what it has read, with the
tokens and the cost of the answer that it owes.

## Main definitions

* `Desk.account` — the account of a session on a desk.
* `Desk.Filed` — sessions are kept, and handed back, under their own names.
* `Bill.Fits` — how an account goes together with what a turn still has to charge, if nobody else
  writes the row of its session.
-/

namespace AgentDesk

/-- What a stage still has to charge. -/
def TurnStage.bill : TurnStage → Bill
  | .working p => p.bill
  | .unregistering _ | .delivering _ | .ended _ => .paid

/-- The session whose row a request may write is that of its call. -/
theorem TurnRequest.files?_call? (id session : String) (r : TurnRequest) :
    (r.call? id session).bind StoreCall.files? = r.files? := by
  cases r <;> rfl

theorem TurnProgress.bill_stage (progress : TurnProgress) :
    progress.stage.bill = progress.bill := by
  cases progress <;> rfl

namespace Desk

variable {d d' : Desk} {i : Nat} {t : TurnTask} {m : DeskMove} {session : String}

/-- The account of a session on a desk. -/
def account (d : Desk) (session : String) : Account := Store.account session d.store.store

/-! ## What steps do to accounts -/

/-- A turn writes the row of a session only if it has the session at hand. -/
theorem files?_of_exchange? {e : Exchange} (ht : d.cards[i]? = some t)
    (h : d.exchange? i = some e) : e.request.files? = t.stage.bill.files? := by
  obtain ⟨t₀, ht₀, rfl⟩ := Option.map_eq_some_iff.mp (List.getElem?_map ▸ ht)
  unfold exchange? at h
  rw [ht₀] at h
  dsimp only at h
  split at h
  · rename_i p hstage
    obtain ⟨r, -, rfl⟩ := Option.map_eq_some_iff.mp h
    have hcard : t₀.card.stage = .working p := hstage
    rw [hcard]
    exact TurnPhase.files?_request p
  · cases h

/-- A step of a turn leaves the account of a session alone, unless it writes its row. -/
theorem account_step {e : Exchange} (h : d.exchange? i = some e)
    (hne : e.request.files? ≠ some session) :
    (d.move (.step (.turn i))).account session = d.account session := by
  obtain ⟨t, t', d', -, hanswer, hstore⟩ := answer?_of_exchange? h
  rw [account, hstore]
  exact (called_answer? hanswer).account_eq (by rwa [TurnRequest.files?_call?])

/-- A turn that exchanges nothing leaves every account alone. -/
theorem account_of_exchange?_eq_none (h : d.exchange? i = none) (session : String) :
    (d.move (.step (.turn i))).account session = d.account session := by
  rw [account, store_of_exchange?_eq_none h, account]

/-! ## Sessions under their own names -/

/-- Sessions are kept under their own names, and a turn that is about to charge its session has it
at hand. -/
structure Filed (d : Desk) : Prop where
  store : d.store.store.Filed
  drawn : ∀ (i : Nat) (t : TurnTask) (s : Session), d.cards[i]? = some t →
    t.stage.bill = .drawn s → s.id = t.setup.sessionId

/-- A step of a turn leaves the accounts of other sessions alone. -/
theorem account_step_of_ne {e : Exchange} (hfiled : d.Filed) (ht : d.cards[i]? = some t)
    (he : d.exchange? i = some e) (hne : t.setup.sessionId ≠ session) :
    (d.move (.step (.turn i))).account session = d.account session := by
  refine account_step he fun hfiles => hne ?_
  rw [files?_of_exchange? ht he] at hfiles
  cases hbill : t.stage.bill with
  | drawn s =>
    rw [hbill] at hfiles
    exact (hfiled.drawn i t s ht hbill).symm.trans (Option.some.inj hfiles)
  | paid | owed =>
    rw [hbill] at hfiles
    cases hfiles

theorem filed_openOn (roster : Roster) (sources : List Source) {store : WatchedStore}
    (bench : Workbench) (h : store.store.Filed) : (openOn roster sources store bench).Filed := by
  refine ⟨h, fun i t s ht => ?_⟩
  cases ht

/-- A session that a turn reads is the one that is kept under the name of its session. -/
theorem account_of_read {x : Session} (hfiled : d.store.store.Filed) (ht : d.cards[i]? = some t)
    (h : d.exchange? i = some ⟨.readSession, (.ok x : Except StoreFailure Session)⟩) :
    x.id = t.setup.sessionId ∧ x.account = d.account t.setup.sessionId := by
  obtain ⟨t₀, ht₀, hresult, -⟩ := read_of_exchange? h
  obtain rfl : t₀.card = t := by simpa [cards, ht₀] using ht
  exact (Store.account_getSession hresult).imp_left fun hid => hid hfiled

/-- A session that a turn saves leaves its account behind. -/
theorem account_of_saved {s x : Session}
    (h : d.exchange? i = some ⟨.saveSession s, (.ok x : Except StoreFailure Session)⟩)
    (hcounted : Exchange.Counted ⟨.saveSession s, (.ok x : Except StoreFailure Session)⟩)
    (hparent : (d.account s.id).parent = s.parent) :
    ((d.move (.step (.turn i))).account s.id).Alike s.account := by
  obtain ⟨hresult, hstore⟩ := saved_of_exchange? h
  obtain ⟨hprompt, hcompletion⟩ := hcounted x rfl
  rw [account, hstore]
  exact Store.account_saveSession hresult hprompt hcompletion hparent

/-- The counters of a session that a turn saves come back as they were, as long as they fit into
signed words. -/
theorem counted_of_exchange? {e : Exchange} (h : d.exchange? i = some e)
    (hsmall : ∀ s, e.request = .saveSession s →
      s.promptTokens < 2 ^ 63 ∧ s.completionTokens < 2 ^ 63) : e.Counted := by
  obtain ⟨request, reply⟩ := e
  cases request with
  | saveSession s =>
    rintro x rfl
    obtain ⟨hresult, -⟩ := saved_of_exchange? h
    obtain ⟨hprompt, hcompletion⟩ := hsmall s rfl
    exact Store.counters_saveSession hresult hprompt hcompletion
  | _ => trivial

/-- **What a move makes of what a turn has to charge**: nothing, unless it is a step of the turn
with an exchange in it. -/
theorem bill_move (ht : d.cards[i]? = some t) (m : DeskMove) :
    ∃ stage, (d.move m).cards[i]? = some { t with stage } ∧
      (m.pick i (d.exchange? i) = none ∧ stage.bill = t.stage.bill ∨
        ∃ e, m = .step (.turn i) ∧ d.exchange? i = some e ∧
          Bill.Goes t.setup.model t.stage.bill e stage.bill) := by
  obtain ⟨stage, ht', hgoes⟩ := goes_move ht m
  refine ⟨stage, ht', ?_⟩
  generalize m.pick i (d.delivery? i) = delivery at hgoes
  generalize hexchange : m.pick i (d.exchange? i) = exchange at hgoes ⊢
  generalize t.stage = before at hgoes ⊢
  cases hgoes with
  | rests => exact .inl ⟨rfl, rfl⟩
  | leaves outcome | delivers outcome => exact .inl ⟨rfl, rfl⟩
  | works p now reply honest =>
    obtain ⟨hstep, he⟩ := DeskMove.pick_eq_some hexchange
    refine .inr ⟨_, hstep, he, ?_⟩
    rw [TurnProgress.bill_stage]
    exact TurnPhase.goes_bill t.setup now p reply

/-- What an exchange of a turn makes of what the turn has to charge. -/
theorem bill_exchange {e : Exchange} (ht : d.cards[i]? = some t) (he : d.exchange? i = some e) :
    ∃ stage, (d.move (.step (.turn i))).cards[i]? = some { t with stage } ∧
      Bill.Goes t.setup.model t.stage.bill e stage.bill := by
  obtain ⟨stage, ht', ⟨hnone, -⟩ | ⟨e', -, he', hgoes⟩⟩ := bill_move ht (.step (.turn i))
  · rw [DeskMove.pick_self, he] at hnone
    cases hnone
  · obtain rfl := Option.some.inj (he.symm.trans he')
    exact ⟨stage, ht', hgoes⟩

theorem filed_move (h : d.Filed) (m : DeskMove) : (d.move m).Filed := by
  refine ⟨(d.called_move m).filed h.store, fun i t s ht hbill => ?_⟩
  cases hcard : d.cards[i]? with
  | none =>
    rw [card_of_none hcard ht] at hbill
    cases hbill
  | some t₀ =>
    obtain ⟨stage, ht', hgoes⟩ := bill_move hcard m
    obtain rfl := Option.some.inj (ht'.symm.trans ht)
    rcases hgoes with ⟨-, hsame⟩ | ⟨e, -, he, hgoes⟩
    · exact h.drawn i t₀ s hcard (hsame ▸ hbill)
    · rw [hbill] at hgoes
      generalize t₀.stage.bill = before at hgoes
      cases hgoes with
      | reads tokens x => exact (account_of_read h.store hcard he).1

theorem filed_run (moves : List DeskMove) (h : d.Filed) : (d.run moves).Filed := by
  induction moves generalizing d with
  | nil => exact h
  | cons m moves ih => exact ih (filed_move h m)

end Desk

/-! ## One turn -/

/-- How an account goes together with what a turn still has to charge: an answer that is owed is not
in it yet, and a session that is at hand has it already. -/
def Bill.Fits (m : Model) (session : String) (start account : Account) (past : List Tokens) :
    Bill → Prop
  | .paid => account.Alike (start.accrued m past)
  | .owed t => ∃ paid, past = paid ++ [t] ∧ account.Alike (start.accrued m paid)
  | .drawn s => account.parent = start.parent ∧ s.id = session ∧
      s.account.Alike (start.accrued m past)

namespace Desk

variable {d : Desk} {i : Nat} {t : TurnTask} {start : Account} {past : List Tokens}

/-- **A step of a turn**: what it charges is what it owed. -/
theorem fits_step {e : Exchange} {b b' : Bill} (hfiled : d.Filed) (ht : d.cards[i]? = some t)
    (he : d.exchange? i = some e) (hkept : e.Kept) (hgoes : Bill.Goes t.setup.model b e b')
    (hfits : b.Fits t.setup.model t.setup.sessionId start (d.account t.setup.sessionId) past) :
    b'.Fits t.setup.model t.setup.sessionId start
      ((d.move (.step (.turn i))).account t.setup.sessionId) (past ++ e.completion?.toList) := by
  have hsame : e.request.files? = none → (d.move (.step (.turn i))).account t.setup.sessionId =
      d.account t.setup.sessionId := by
    intro hfiles
    exact account_step he (by simp [hfiles])
  cases hgoes with
  | completes _ tokens completion files =>
    rw [completion, hsame files]
    exact ⟨past, rfl, hfits⟩
  | saves _ tokens completion files =>
    rw [completion, hsame files]
    simpa using hfits
  | reads tokens s =>
    obtain ⟨paid, rfl, hpaid⟩ := hfits
    obtain ⟨hid, haccount⟩ := account_of_read hfiled.store ht he
    rw [hsame rfl]
    refine ⟨hpaid.parent_eq, hid, ?_⟩
    have hgrown := hpaid.accrued t.setup.model [tokens]
    rw [← Account.accrued_append, ← haccount, ← Usage.account_accrue] at hgrown
    exact (List.append_nil _).symm ▸ hgrown
  | charges s x =>
    obtain ⟨hparent, hid, hdrawn⟩ := hfits
    rw [← hid] at hparent ⊢
    have hsaved := account_of_saved he hkept.counted (hparent.trans hdrawn.parent_eq.symm)
    exact (List.append_nil past).symm ▸ hsaved.trans hdrawn
  | other _ completion files =>
    rw [completion, hsame files]
    simpa using hfits
  | fails _ _ hfails => exact absurd hkept.accepted hfails

/-- The answers that complete in a move, and behind it. -/
theorem completions_cons (i : Nat) (d : Desk) (m : DeskMove) (moves : List DeskMove) :
    (trace i d (m :: moves)).filterMap Exchange.completion? =
      ((m.pick i (d.exchange? i)).bind Exchange.completion?).toList ++
        (trace i (d.move m) moves).filterMap Exchange.completion? := by
  rw [trace, List.filterMap_append]
  cases m.pick i (d.exchange? i) with
  | none => rfl
  | some e => cases he : e.completion? <;> simp [he]

end Desk

end AgentDesk
