import AgentDesk.Proofs.Desk.Accounting
import AgentDesk.Proofs.Turn.Ledger
/-!
# What a session is charged for

A session has one turn at a time, and that turn charges it once for each answer that a stream
completes. But a turn that is canceled is unregistered at once, and then it goes on for a while
beside its successor. Neither of them holds on to the row of the session between reading it and
writing it, so that one of them may write over what the other has charged.

The account of a session grows by the answers that its row has kept. Each of them is in it once, and
they are all that were completed iff nobody has written the row between the two steps of a charge; a
turn that is alone with its session never loses anything.

## Main definitions

* `Exchange.entered?`, `Desk.entries` — what the turns of a session do about its row in some moves.
* `Desk.charges` — the answers that they get.
* `Desk.Trusted` — the store does what turns ask it for, and tools leave an account alone.
* `Desk.Settled` — no turn of a session has still to charge an answer.
* `Desk.Ledgered` — how a desk goes together with the ledger of a session.
-/

namespace AgentDesk

/-- What an exchange of a turn does about the row of its session. -/
def Exchange.entered? (i : Nat) (m : Model) (e : Exchange) : Option LedgerEntry :=
  match e.completion? with
  | some tokens => some (.answers (.of i m tokens))
  | none =>
    match e.request with
    | .readSession => some (.reads i)
    | .saveSession _ => some (.writes i)
    | _ => none

theorem Exchange.turn_entered? {i : Nat} {m : Model} {e : Exchange} {entry : LedgerEntry}
    (h : e.entered? i m = some entry) : entry.turn = i := by
  unfold entered? at h
  split at h
  · cases h
    rfl
  · split at h <;> cases h <;> rfl

/-- An exchange that completes nothing and writes no row may still read one. -/
theorem Exchange.entered?_of_quiet {e : Exchange} (hcompletion : e.completion? = none)
    (hfiles : e.request.files? = none) (i : Nat) (m : Model) :
    e.entered? i m = none ∨ e.entered? i m = some (.reads i) := by
  obtain ⟨r, reply⟩ := e
  unfold entered?
  rw [hcompletion]
  cases r with
  | readSession => exact .inr rfl
  | saveSession s => cases hfiles
  | _ => exact .inl rfl

/-- How the ledger of a session goes together with what a turn has still to charge. -/
def Bill.Booked (session : String) (start : Account) (l : Ledger) (i : Nat) (m : Model) :
    Bill → Prop
  | .paid => l.owed i = none
  | .owed t => l.owed i = some (.of i m t)
  | .drawn s => ∃ charges t, l.owed i = some (.of i m t) ∧ l.drawn i = some charges ∧
      s.id = session ∧ s.account.Alike (start.behind (charges ++ [.of i m t]))

/-- What other turns do about the row is of no account. -/
theorem Bill.Booked.congr {session : String} {start : Account} {l l' : Ledger} {i : Nat}
    {m : Model} {b : Bill} (h : b.Booked session start l i m)
    (hsame : l'.owed i = l.owed i ∧ l'.drawn i = l.drawn i) : b.Booked session start l' i m := by
  obtain ⟨howed, hdrawn⟩ := hsame
  cases b with
  | paid | owed => exact howed.trans h
  | drawn s =>
    obtain ⟨charges, t, howed', hdrawn', hs⟩ := h
    exact ⟨charges, t, howed.trans howed', hdrawn.trans hdrawn', hs⟩

namespace Desk

variable {d : Desk} {i : Nat} {t : TurnTask} {m : DeskMove} {session : String} {e : Exchange}
  {start : Account} {l : Ledger}

/-! ## The turns of a session -/

/-- The turn in a place and its next exchange, if it is a turn of a session. -/
def dealing? (d : Desk) (session : String) (i : Nat) : Option (TurnTask × Exchange) :=
  (d.cards[i]?).bind fun t =>
    if t.setup.sessionId = session then (d.exchange? i).map (Prod.mk t) else none

theorem dealing?_eq_some : d.dealing? session i = some (t, e) ↔
    d.cards[i]? = some t ∧ t.setup.sessionId = session ∧ d.exchange? i = some e := by
  cases hcard : d.cards[i]? with
  | none => simp [dealing?, hcard]
  | some t₀ =>
    by_cases hsession : t₀.setup.sessionId = session
    · simp only [dealing?, hcard, Option.bind_some, if_pos hsession, Option.map_eq_some_iff,
        Prod.mk.injEq, Option.some.injEq]
      constructor
      · rintro ⟨e₀, he₀, rfl, rfl⟩
        exact ⟨rfl, hsession, he₀⟩
      · rintro ⟨rfl, -, he⟩
        exact ⟨e, he, rfl, rfl⟩
    · simp only [dealing?, hcard, Option.bind_some, if_neg hsession, Option.some.injEq]
      refine iff_of_false (fun h => by cases h) ?_
      rintro ⟨rfl, hsession', -⟩
      exact hsession hsession'

/-- What a move does about the row of a session. -/
def entered? (d : Desk) (session : String) : DeskMove → Option LedgerEntry
  | .step (.turn i) => (d.dealing? session i).bind fun p => p.2.entered? i p.1.setup.model
  | _ => none

/-- What some moves do about the row of a session. -/
def entries (session : String) : Desk → List DeskMove → List LedgerEntry
  | _, [] => []
  | d, m :: moves => (d.entered? session m).toList ++ entries session (d.move m) moves

/-- The answers that the streams of the turns of a session complete in some moves. -/
def charges (d : Desk) (session : String) (moves : List DeskMove) : List Charge :=
  (entries session d moves).filterMap LedgerEntry.charge?

/-- In a move, the store does what a turn of a session asks it for, and a tool leaves the account of
the session alone. -/
def Trusts (d : Desk) (session : String) (m : DeskMove) : Prop :=
  match m with
  | .step (.turn i) => ∀ p ∈ d.dealing? session i, p.2.Kept
  | .step (.toolOf _) | .step (.errand _) => (d.move m).account session = d.account session
  | _ => True

/-- In some moves, the store does what the turns of a session ask it for, and tools leave the
account of the session alone. -/
def Trusted (session : String) : Desk → List DeskMove → Prop
  | _, [] => True
  | d, m :: moves => d.Trusts session m ∧ Trusted session (d.move m) moves

/-- No turn of a session has still to charge an answer. -/
def Settled (d : Desk) (session : String) : Prop :=
  ∀ t ∈ d.cards, t.setup.sessionId = session → t.stage.bill = .paid

instance decidableTrusts (d : Desk) (session : String) : (m : DeskMove) →
    Decidable (d.Trusts session m)
  | .step (.turn i) => inferInstanceAs (Decidable (∀ p ∈ d.dealing? session i, p.2.Kept))
  | .step (.toolOf i) => inferInstanceAs
      (Decidable ((d.move (.step (.toolOf i))).account session = d.account session))
  | .step (.errand i) => inferInstanceAs
      (Decidable ((d.move (.step (.errand i))).account session = d.account session))
  | .submit .. | .cancel .. | .clearQueue .. | .cancelToken _ | .forkToken _ | .release _
  | .ask .. => isTrue trivial

instance decidableTrusted (session : String) : (d : Desk) → (moves : List DeskMove) →
    Decidable (Trusted session d moves)
  | _, [] => isTrue trivial
  | d, m :: moves =>
    have := decidableTrusted session (d.move m) moves
    inferInstanceAs (Decidable (d.Trusts session m ∧ Trusted session (d.move m) moves))

instance decidableSettled (d : Desk) (session : String) : Decidable (d.Settled session) :=
  inferInstanceAs (Decidable
    (∀ t ∈ d.cards, t.setup.sessionId = session → t.stage.bill = .paid))

/-- How a desk goes together with the ledger of a session. -/
structure Ledgered (session : String) (start : Account) (l : Ledger) (d : Desk) : Prop where
  account : (d.account session).Alike (start.behind l.kept)
  turns : ∀ (i : Nat) (t : TurnTask), d.cards[i]? = some t → t.setup.sessionId = session →
    t.stage.bill.Booked session start l i t.setup.model
  rest : ∀ i, (∀ t, d.cards[i]? = some t → t.setup.sessionId ≠ session) → l.owed i = none

/-! ## One move -/

/-- **A step of a turn of the session**: what it writes is what it has read, with the answer that it
owes. -/
theorem booked_step {b b' : Bill} (hfiled : d.Filed) (ht : d.cards[i]? = some t)
    (hsession : t.setup.sessionId = session) (he : d.exchange? i = some e) (hkept : e.Kept)
    (hgoes : Bill.Goes t.setup.model b e b')
    (haccount : (d.account session).Alike (start.behind l.kept))
    (hbooked : b.Booked session start l i t.setup.model) :
    l.AdmitsAll (e.entered? i t.setup.model).toList ∧
      ((d.move (.step (.turn i))).account session).Alike
        (start.behind (l.enterAll (e.entered? i t.setup.model).toList).kept) ∧
      b'.Booked session start (l.enterAll (e.entered? i t.setup.model).toList) i
        t.setup.model := by
  have hsame : e.request.files? = none →
      (d.move (.step (.turn i))).account session = d.account session := by
    intro hfiles
    exact account_step he (by simp [hfiles])
  -- An exchange that neither completes an answer nor writes the row may read it, or do nothing
  -- about it.
  have hquiet : e.completion? = none → e.request.files? = none →
      l.AdmitsAll (e.entered? i t.setup.model).toList ∧
        ((d.move (.step (.turn i))).account session).Alike
          (start.behind (l.enterAll (e.entered? i t.setup.model).toList).kept) ∧
        (l.enterAll (e.entered? i t.setup.model).toList).owed i = l.owed i := by
    intro hcompletion hfiles
    rw [hsame hfiles]
    rcases Exchange.entered?_of_quiet hcompletion hfiles i t.setup.model with hentry | hentry <;>
      rw [hentry]
    · exact ⟨trivial, haccount, rfl⟩
    · exact ⟨⟨trivial, trivial⟩, haccount, rfl⟩
  cases hgoes with
  | completes _ tokens completion files =>
    have hentry : e.entered? i t.setup.model = some (.answers (.of i t.setup.model tokens)) := by
      rw [Exchange.entered?, completion]
    rw [hentry, hsame files]
    exact ⟨⟨hbooked, trivial⟩, haccount, Ledger.owed_answers l (.of i t.setup.model tokens)⟩
  | saves _ tokens completion files =>
    obtain ⟨hadmits, haccount', howed⟩ := hquiet completion files
    exact ⟨hadmits, haccount', howed.trans hbooked⟩
  | other _ completion files =>
    obtain ⟨hadmits, haccount', howed⟩ := hquiet completion files
    exact ⟨hadmits, haccount', howed.trans hbooked⟩
  | reads tokens s =>
    obtain ⟨hid, hread⟩ := account_of_read hfiled.store ht he
    rw [hsession] at hid hread
    rw [hsame rfl]
    refine ⟨⟨trivial, trivial⟩, haccount, l.kept, tokens, hbooked, Ledger.drawn_reads l i, hid, ?_⟩
    rw [Account.behind_snoc, Usage.account_accrue, hread]
    exact haccount.accrued t.setup.model [tokens]
  | charges s x =>
    obtain ⟨charges, tokens, howed, hdrawn, hid, hs⟩ := hbooked
    have hparent : (d.account s.id).parent = s.parent := by
      rw [hid]
      exact haccount.parent_eq.trans hs.parent_eq.symm
    have hsaved := account_of_saved he hkept.counted hparent
    rw [hid] at hsaved
    have hkept' : (l.enter (.writes i)).kept = charges ++ [.of i t.setup.model tokens] := by
      simp [Ledger.enter, howed, hdrawn]
    refine ⟨⟨⟨⟨charges, hdrawn⟩, _, howed⟩, trivial⟩, ?_, Ledger.owed_writes l i⟩
    exact hkept' ▸ hsaved.trans hs
  | fails _ _ hfails => exact absurd hkept.accepted hfails

/-- A move that is no exchange of a turn of the session leaves its account alone. -/
theorem account_of_aside (hfiled : d.Filed) (htrusts : d.Trusts session m)
    (hother : ∀ i p, m = .step (.turn i) → d.dealing? session i ≠ some p) :
    (d.move m).account session = d.account session := by
  cases m with
  | step task =>
    cases task with
    | toolOf | errand => exact htrusts
    | turn i =>
      cases he : d.exchange? i with
      | none => exact account_of_exchange?_eq_none he session
      | some e =>
        obtain ⟨t, -, -, ht, -, -⟩ := answer?_of_exchange? he
        have hcard : d.cards[i]? = some t.card := by simp [cards, ht]
        refine account_step_of_ne hfiled hcard he fun hsession => ?_
        exact hother i (t.card, e) rfl (dealing?_eq_some.mpr ⟨hcard, hsession, he⟩)
  | submit | cancel | clearQueue | cancelToken | forkToken | release | ask =>
    refine congrArg (fun w => Store.account session w.store) (d.store_move ?_)
    exact fun _ h => by cases h

/-- A turn that exchanges nothing for the session stays as it was, and a turn that begins owes
nothing. -/
theorem Ledgered.others {l' : Ledger} {j : Nat} (h : Ledgered session start l d)
    (hother : ∀ p, m = .step (.turn j) → d.dealing? session j ≠ some p)
    (hsame : l'.owed j = l.owed j ∧ l'.drawn j = l.drawn j) :
    (∀ t, (d.move m).cards[j]? = some t → t.setup.sessionId = session →
        t.stage.bill.Booked session start l' j t.setup.model) ∧
      ((∀ t, (d.move m).cards[j]? = some t → t.setup.sessionId ≠ session) → l'.owed j = none) := by
  cases hcard : d.cards[j]? with
  | none =>
    have hnone : l'.owed j = none := by
      rw [hsame.1]
      exact h.rest j fun t ht => by simp [hcard] at ht
    refine ⟨fun t ht _ => ?_, fun _ => hnone⟩
    rw [card_of_none hcard ht]
    exact hnone
  | some t₀ =>
    obtain ⟨stage, hcard', hgoes⟩ := bill_move hcard m
    refine ⟨fun t ht hsession => ?_, fun hne => ?_⟩
    · obtain rfl := Option.some.inj (hcard'.symm.trans ht)
      rcases hgoes with ⟨-, hbill⟩ | ⟨e, hm, he, -⟩
      · exact hbill ▸ (h.turns j t₀ hcard hsession).congr hsame
      · exact absurd (dealing?_eq_some.mpr ⟨hcard, hsession, he⟩) (hother (t₀, e) hm)
    · rw [hsame.1]
      have hsession : t₀.setup.sessionId ≠ session := hne { t₀ with stage } hcard'
      refine h.rest j fun t ht => ?_
      rwa [← Option.some.inj (hcard.symm.trans ht)]

/-- **An exchange of a turn of the session** keeps the desk and the ledger together. -/
theorem Ledgered.exchange (h : Ledgered session start l d) (hfiled : d.Filed)
    (hdealing : d.dealing? session i = some (t, e)) (hkept : e.Kept) :
    l.AdmitsAll (e.entered? i t.setup.model).toList ∧
      Ledgered session start (l.enterAll (e.entered? i t.setup.model).toList)
        (d.move (.step (.turn i))) := by
  obtain ⟨ht, hsession, he⟩ := dealing?_eq_some.mp hdealing
  obtain ⟨stage, ht', hgoes⟩ := bill_exchange ht he
  obtain ⟨hadmits, haccount, hbooked⟩ :=
    booked_step hfiled ht hsession he hkept hgoes h.account (h.turns i t ht hsession)
  have hother : ∀ j, j ≠ i → ∀ p, DeskMove.step (.turn i) = .step (.turn j) →
      d.dealing? session j ≠ some p := by
    rintro j hj p heq
    cases heq
    exact absurd rfl hj
  have hsame : ∀ j, j ≠ i →
      (l.enterAll (e.entered? i t.setup.model).toList).owed j = l.owed j ∧
        (l.enterAll (e.entered? i t.setup.model).toList).drawn j = l.drawn j := by
    refine fun j hj => Ledger.enterAll_of_ne l fun entry hmem heq => hj ?_
    exact heq.symm.trans (Exchange.turn_entered? (Option.mem_toList.mp hmem))
  refine ⟨hadmits, haccount, fun j t' ht'' hsession' => ?_, fun j hne => ?_⟩
  · by_cases hj : j = i
    · subst hj
      obtain rfl := Option.some.inj (ht'.symm.trans ht'')
      exact hbooked
    · exact (h.others (hother j hj) (hsame j hj)).1 t' ht'' hsession'
  · by_cases hj : j = i
    · subst hj
      exact absurd hsession (hne { t with stage } ht')
    · exact (h.others (hother j hj) (hsame j hj)).2 hne

/-- **A move that is no exchange of a turn of the session** keeps them together, too. -/
theorem Ledgered.aside (h : Ledgered session start l d) (hfiled : d.Filed)
    (htrusts : d.Trusts session m)
    (hother : ∀ i p, m = .step (.turn i) → d.dealing? session i ≠ some p) :
    Ledgered session start l (d.move m) where
  account := account_of_aside hfiled htrusts hother ▸ h.account
  turns j := (h.others (hother j) ⟨rfl, rfl⟩).1
  rest j := (h.others (hother j) ⟨rfl, rfl⟩).2

/-- Such a move does nothing about the row. -/
theorem entered?_of_aside (hother : ∀ i p, m = .step (.turn i) → d.dealing? session i ≠ some p) :
    d.entered? session m = none := by
  cases m with
  | step task =>
    cases task with
    | turn i =>
      have hnone := Option.eq_none_iff_forall_ne_some.mpr fun p => hother i p rfl
      rw [entered?, hnone, Option.bind_none]
    | toolOf | errand => rfl
  | submit | cancel | clearQueue | cancelToken | forkToken | release | ask => rfl

/-- **One move** keeps the desk and the ledger of a session together. -/
theorem Ledgered.move (h : Ledgered session start l d) (hfiled : d.Filed)
    (htrusts : d.Trusts session m) :
    l.AdmitsAll (d.entered? session m).toList ∧
      Ledgered session start (l.enterAll (d.entered? session m).toList) (d.move m) := by
  by_cases hdealing : ∃ i p, m = .step (.turn i) ∧ d.dealing? session i = some p
  · obtain ⟨i, ⟨t, e⟩, rfl, hdealing⟩ := hdealing
    have hentry : d.entered? session (.step (.turn i)) = e.entered? i t.setup.model := by
      rw [entered?, hdealing, Option.bind_some]
    rw [hentry]
    exact h.exchange hfiled hdealing (htrusts _ hdealing)
  · have hother : ∀ i p, m = .step (.turn i) → d.dealing? session i ≠ some p :=
      fun i p hm hp => hdealing ⟨i, p, hm, hp⟩
    rw [entered?_of_aside hother]
    exact ⟨trivial, h.aside hfiled htrusts hother⟩

/-! ## Many moves -/

/-- **Many moves.** -/
theorem Ledgered.run (h : Ledgered session start l d) (moves : List DeskMove) (hfiled : d.Filed)
    (htrusted : Trusted session d moves) :
    l.AdmitsAll (entries session d moves) ∧
      Ledgered session start (l.enterAll (entries session d moves)) (d.run moves) := by
  induction moves generalizing d l with
  | nil => exact ⟨trivial, h⟩
  | cons m moves ih =>
    obtain ⟨hadmits, hmove⟩ := h.move hfiled htrusted.1
    obtain ⟨hadmits', hrun⟩ := ih hmove (filed_move hfiled m) htrusted.2
    rw [entries, Ledger.enterAll, List.foldl_append]
    exact ⟨Ledger.admitsAll_append hadmits hadmits', hrun⟩

/-- A desk on which no turn of a session has still to charge an answer begins with an empty ledger.
-/
theorem ledgered_of_settled (h : d.Settled session) :
    Ledgered session (d.account session) .empty d where
  account := .refl _
  turns i t ht hsession := by
    rw [h t (List.mem_of_getElem? ht) hsession]
    rfl
  rest _ _ := rfl

/-- On such a desk nobody owes anything. -/
theorem Ledgered.owed_eq_none (h : Ledgered session start l d) (hsettled : d.Settled session)
    (i : Nat) : l.owed i = none := by
  by_cases hcard : ∃ t, d.cards[i]? = some t ∧ t.setup.sessionId = session
  · obtain ⟨t, ht, hsession⟩ := hcard
    have hbooked := h.turns i t ht hsession
    rwa [hsettled t (List.mem_of_getElem? ht) hsession] at hbooked
  · exact h.rest i fun t ht hsession => hcard ⟨t, ht, hsession⟩

/-- A turn that is alone with its session never writes over a charge. -/
theorem serial_of_alone (hfiled : d.Filed) (moves : List DeskMove)
    (htrusted : Trusted session d moves) (hbegin : d.Settled session)
    (halone : ∀ e ∈ entries session d moves, e.turn = i) : Serial [] (entries session d moves) :=
  Ledger.serial_of_alone ((ledgered_of_settled hbegin).run moves hfiled htrusted).1 halone
    fun _ h => by cases h

section

variable {roster : Roster} {sources : List Source} {store : WatchedStore} {bench : Workbench}
  {before : List DeskMove}

/-- **What a session is charged for.** Take any moments of any run at which no turn of the session
has still to charge an answer, and let the store do what turns ask it for and tools leave the
account of the session alone. The account has then grown by the answers that its row has kept; the
others are lost. None is lost iff nobody has written the row between the two steps of a charge. So
the tokens have grown by exactly those of the answers that the turns of the session got iff the lost
ones used none, and the cost, where no addition rounds, by exactly theirs iff the lost ones were for
free. -/
theorem charged_once_iff (hd : d = (openOn roster sources store bench).run before)
    (hstore : store.store.Filed) (moves : List DeskMove) (htrusted : Trusted session d moves)
    (hbegin : d.Settled session) (hend : (d.run moves).Settled session) :
    ∃ kept lost, (d.charges session moves).Perm (kept ++ lost) ∧
      Accrued kept (d.account session) ((d.run moves).account session) ∧
      (lost = [] ↔ Serial [] (entries session d moves)) ∧
      (((d.run moves).account session).promptTokens = (d.account session).promptTokens +
            ((d.charges session moves).map Charge.prompt).sum ∧
          ((d.run moves).account session).completionTokens = (d.account session).completionTokens +
            ((d.charges session moves).map Charge.completion).sum ↔
        ∀ c ∈ lost, c.prompt = 0 ∧ c.completion = 0) ∧
      (AddsExactly (d.account session).cost (kept.map Charge.cost) →
        (exactValue ((d.run moves).account session).cost = exactValue (d.account session).cost +
            ((d.charges session moves).map fun c => exactValue c.cost).sum ↔
          (lost.map fun c => exactValue c.cost).sum = 0)) := by
  have hfiled : d.Filed := hd ▸ filed_run before (filed_openOn roster sources bench hstore)
  obtain ⟨hadmits, hledgered⟩ := (ledgered_of_settled hbegin).run moves hfiled htrusted
  have hsound := Ledger.sound_empty.enterAll hadmits
  obtain ⟨lost, hperm, hlost⟩ := hsound.split (hledgered.owed_eq_none hend)
  rw [Ledger.answered_enterAll] at hperm
  have haccrued := Accrued.of_alike hledgered.account
  have hwhole : _ ↔ Serial [] (entries session d moves) :=
    (Ledger.whole_enterAll .empty (entries session d moves)).trans (and_iff_right trivial)
  exact ⟨_, lost, hperm, haccrued, hlost.trans hwhole, haccrued.tokens_iff hperm,
    haccrued.cost_iff hperm⟩

end

/-- An agent with a priced model, and two turns of its provider that complete an answer each. -/
def pricedAgent : Agent :=
  ⟨"a", "a", 0,
    { Model.blank with
      inputPrice := 3, outputPrice := 15, cacheWritePrice := 3.75, cacheReadPrice := 0.5 },
    .ofList [], none, 1000⟩

@[inherit_doc pricedAgent]
def pricedTurns : List ScriptedTurn :=
  [.stream none [.complete ⟨"", [], ⟨20, 10, 4, 8⟩, .endTurn⟩] false,
    .stream none [.complete ⟨"", [], ⟨10, 5, 2, 1⟩, .endTurn⟩] false]

/-- A turn is canceled when it has read the row of its session. A second turn runs from its
beginning to its end before the first one writes the row: the answer of the second turn is lost. -/
theorem exists_charge_lost :
    ∃ (roster : Roster) (sources : List Source) (store : WatchedStore) (bench : Workbench)
      (before moves : List DeskMove) (d : Desk) (kept lost : List Charge),
      d = (openOn roster sources store bench).run before ∧ Trusted "s" d moves ∧
      ((d.run moves).outcomeOf? 0).isSome ∧ ((d.run moves).outcomeOf? 1).isSome ∧
      (d.charges "s" moves).map Charge.tokens = [⟨20, 10, 4, 8⟩, ⟨10, 5, 2, 1⟩] ∧
      (d.charges "s" moves).Perm (kept ++ lost) ∧ lost ≠ [] ∧
      Accrued kept .new ((d.run moves).account "s") ∧
      ((d.run moves).account "s").promptTokens = 24 ∧
      ((d.run moves).account "s").completionTokens = 18 := by
  have hcharged := charged_once_iff
    (rfl : _ = (openOn ⟨[pricedAgent], [], 4⟩ [.script (.ofTurns pricedTurns)]
      (.ofStore (.memory .empty) []) ⟨default, default, default⟩).run [.forkToken none])
    (fun _ _ h => by cases h)
    ([.submit 0 0 "s" "hello" []] ++ List.replicate 9 (.step (.turn 0)) ++
      [.cancel 0 "s", .submit 0 0 "s" "again" []] ++ List.replicate 14 (.step (.turn 1)) ++
      List.replicate 5 (.step (.turn 0)))
    (by decide +kernel : Trusted "s" _ _) (by decide +kernel) (by decide +kernel)
  obtain ⟨kept, lost, hperm, haccrued, hlost, -, -⟩ := hcharged
  have hserial := mt hlost.mp (by decide +kernel)
  exact ⟨_, _, _, _, _, _, _, kept, lost, rfl, by decide +kernel, by decide +kernel,
    by decide +kernel, by decide +kernel, hperm, hserial, haccrued, by decide +kernel,
    by decide +kernel⟩

end Desk

end AgentDesk
