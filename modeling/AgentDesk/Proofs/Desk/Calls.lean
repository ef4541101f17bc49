import AgentDesk.Proofs.Desk.Errands
import AgentDesk.Proofs.Store.Accounts
/-!
# How a desk calls its store

Every move of a desk calls the store at most once. A turn at work makes the call of its request, an
errand that delegates makes the call of its own, and nothing else has to do with the store.

## Main definitions

* `TurnRequest.call?`, `DelegationRequest.call?` — what a request asks of the store.
* `Desk.call?` — what a move asks of the store.
* `Called` — a store was called once, or not at all.
-/

namespace AgentDesk

/-- What a request of a turn asks of the store. A message that is created gets the given name. -/
def TurnRequest.call? (id session : String) : TurnRequest → Option StoreCall
  | .listMessages => some (.listMessages session)
  | .readSession => some (.getSession session)
  | .saveSession s => some (.saveSession s)
  | .createMessage draft => some (.createMessage id session draft)
  | .updateMessage message => some (.updateMessage message)
  | _ => none

/-- What a request of a delegation asks of the store. -/
def DelegationRequest.call? : DelegationRequest → Option StoreCall
  | .readSession id => some (.getSession id)
  | .openTask callId parent title => some (.openTask callId parent title)
  | .saveSession s => some (.saveSession s)
  | .submit _ _ | .awaitTurn _ => none

/-- What the next step of an errand asks of the store. -/
def Errand.call? (e : Errand) : Option StoreCall :=
  match e.stage with
  | .delegating _ setup phase => (phase.request setup).call?
  | _ => none

/-- A store is as it was, or it was called once, in the given way. -/
def Called (call? : Option StoreCall) (s s' : Store) : Prop :=
  s' = s ∨ ∃ now c, call? = some c ∧ s' = (s.answer now c).store

namespace Called

variable {call? : Option StoreCall} {s s' : Store}

theorem filed (h : Called call? s s') (hfiled : s.Filed) : s'.Filed := by
  rcases h with rfl | ⟨now, c, -, rfl⟩
  · exact hfiled
  · exact hfiled.answer now c

/-- A call that does not write the row of a session leaves its account alone. -/
theorem account_eq {session : String} (h : Called call? s s')
    (hne : call?.bind StoreCall.files? ≠ some session) :
    Store.account session s' = Store.account session s := by
  rcases h with rfl | ⟨now, c, rfl, rfl⟩
  · rfl
  · exact Store.account_answer hne now s

end Called

namespace Desk

variable {d d' : Desk} {i : Nat} {t : TurnTask} {session : String}

/-- What a turn asks of the store next. -/
def turnCall? (d : Desk) (t : TurnTask) : Option StoreCall :=
  match t.stage with
  | .working p => (p.request t.setup).call? (d.nextMessageId t.setup.sessionId) t.setup.sessionId
  | _ => none

/-- What a move asks of the store. -/
def call? (d : Desk) : DeskMove → Option StoreCall
  | .step (.turn i) => (d.turns[i]?).bind d.turnCall?
  | .step k => (d.errandOf? k).bind Errand.call?
  | _ => none

/-! ## Calls that are performed -/

/-- A call that is performed, or fails by the plan. -/
theorem called_perform (d : Desk) (operation : StoreOperation)
    (act : Timestamp → Store → StoreReply Store α) (c : StoreCall)
    (h : ∀ now s, (act now s).store = (s.answer now c).store) :
    Called (some c) d.store.store (d.perform operation act).2.store.store := by
  unfold perform WatchedStore.perform
  cases d.store.nextOutage? operation with
  | some outage => exact .inl rfl
  | none => exact .inr ⟨d.now, c, rfl, h d.now d.store.store⟩

/-- A call that succeeds was performed. -/
theorem perform_eq_ok {operation : StoreOperation} {act : Timestamp → Store → StoreReply Store α}
    {x : α} (h : (d.perform operation act).1 = .ok x) : (act d.now d.store.store).result = .ok x ∧
      (d.perform operation act).2.store.store = (act d.now d.store.store).store := by
  unfold perform WatchedStore.perform at h ⊢
  cases hplan : d.store.nextOutage? operation with
  | some outage =>
    rw [hplan] at h
    cases h
  | none =>
    rw [hplan] at h
    exact ⟨h, rfl⟩

theorem called_getSession (d : Desk) (operation : StoreOperation) (id : String) :
    Called (some (.getSession id)) d.store.store
      (d.perform operation fun now => Store.getSession now id).2.store.store :=
  d.called_perform operation _ (.getSession id) fun _ s => by cases s <;> rfl

theorem called_saveSession (d : Desk) (operation : StoreOperation) (x : Session) :
    Called (some (.saveSession x)) d.store.store
      (d.perform operation fun now => Store.saveSession now x).2.store.store :=
  d.called_perform operation _ (.saveSession x) fun _ s => by cases s <;> rfl

/-! ## Turns -/

/-- The store of a desk behind an answer. -/
theorem store_useTracker (d : Desk) (post : PostId) (act : Tracker → List String × Tracker) :
    (d.useTracker post act).2.store = d.store := by
  unfold useTracker
  split <;> rfl

theorem store_serve (d : Desk) (t : TurnTask) (request : ModelRequest) :
    (d.serve t request).2.2.store = d.store := by
  unfold serve
  dsimp only
  generalize Source.serve _ request d.bench.network = served
  obtain ⟨opening, prepared, source, network⟩ := served
  cases prepared with
  | none => rfl
  | some s =>
    dsimp only
    unfold openStream
    split <;> rfl

theorem store_sendTool (d : Desk) (t : TurnTask) (messageId : String) (call : ToolCall) :
    (d.sendTool t messageId call).2.2.store = d.store := by
  unfold sendTool
  split <;> rfl

theorem store_abandon (d : Desk) (e : Errand) : (d.abandon e).store = d.store := by
  unfold abandon
  split <;> rfl

/-- How a request of a turn calls the store. -/
theorem called_answer? {t' : TurnTask} {r : TurnRequest} {reply : r.Reply}
    (h : d.answer? t r = some (reply, t', d')) :
    Called (r.call? (d.nextMessageId t.setup.sessionId) t.setup.sessionId) d.store.store
      d'.store.store := by
  -- A request that does not ask the store for anything leaves it as it is.
  have hquiet : d'.store = d.store →
      Called (r.call? (d.nextMessageId t.setup.sessionId) t.setup.sessionId) d.store.store
        d'.store.store :=
    fun hsame => .inl (congrArg WatchedStore.store hsame)
  cases r with
  | listMessages =>
    obtain rfl : (d.perform .listMessages fun now =>
      Store.listMessages now t.setup.sessionId).2 = d' := congrArg (·.2.2) (Option.some.inj h)
    exact d.called_perform .listMessages _ (.listMessages t.setup.sessionId) fun _ s => by
      cases s <;> rfl
  | readSession =>
    obtain rfl : (d.perform .getSession fun now =>
      Store.getSession now t.setup.sessionId).2 = d' := congrArg (·.2.2) (Option.some.inj h)
    exact d.called_getSession .getSession t.setup.sessionId
  | saveSession x =>
    obtain rfl : (d.perform .saveSession fun now => Store.saveSession now x).2 = d' :=
      congrArg (·.2.2) (Option.some.inj h)
    exact d.called_saveSession .saveSession x
  | createMessage draft =>
    obtain rfl : (d.perform .createMessage fun now =>
        Store.createMessage now (d.nextMessageId t.setup.sessionId) t.setup.sessionId draft).2 =
          d' :=
      congrArg (·.2.2) (Option.some.inj h)
    exact d.called_perform .createMessage _
      (.createMessage (d.nextMessageId t.setup.sessionId) t.setup.sessionId draft)
      fun _ s => by cases s <;> rfl
  | updateMessage message =>
    obtain rfl : (d.perform .updateMessage fun now => Store.updateMessage now message).2 = d' :=
      congrArg (·.2.2) (Option.some.inj h)
    exact d.called_perform .updateMessage _ (.updateMessage message) fun _ s => by cases s <;> rfl
  | isCanceled =>
    cases h
    exact hquiet rfl
  | openStream request =>
    simp only [answer?] at h
    split at h
    · cases h
      exact hquiet rfl
    · refine hquiet ?_
      rw [← d.store_serve t request, Option.some.inj h]
  | nextEvent =>
    simp only [answer?] at h
    split at h
    · cases h
      exact hquiet rfl
    · split at h <;> cases h
      exact hquiet rfl
  | startTool messageId call =>
    simp only [answer?] at h
    split at h
    · cases h
      exact hquiet rfl
    · refine hquiet ?_
      rw [← d.store_sendTool t messageId call, Option.some.inj h]
  | awaitTool =>
    simp only [answer?, awaitTool?] at h
    split at h
    · cases h
      refine hquiet ?_
      split
      · exact d.store_abandon _
      · rfl
    · split at h <;> cases h
      exact hquiet rfl
  | drainQueue =>
    obtain rfl : (d.useTracker t.post (·.drain t.setup.sessionId)).2 = d' :=
      congrArg (·.2.2) (Option.some.inj h)
    exact hquiet (d.store_useTracker ..)
  | finishOrTake =>
    obtain rfl : (d.useTracker t.post
        (·.finishOrTake t.setup.sessionId t.turn.generation)).2 = d' :=
      congrArg (·.2.2) (Option.some.inj h)
    exact hquiet (d.store_useTracker ..)

/-! ## Errands -/

theorem store_submit {post : PostId} {parent : TokenId} {prompt : String} {files : List Binary}
    {r : Submission} (h : d.submit post parent session prompt files = some (r, d')) :
    d'.store = d.store := by
  obtain ⟨p, -, h⟩ := Option.map_eq_some_iff.mp h
  generalize p.tracker.submit d.tokens session parent prompt = answer at h
  obtain ⟨admission, tracker, tokens⟩ := answer
  cases admission <;> cases h <;> rfl

/-- How a delegation calls the store. -/
theorem called_answerDelegation? {e : Errand} {peer : PostId} {r : DelegationRequest}
    {reply : r.Reply} (h : d.answerDelegation? e peer r = some (reply, d')) :
    Called r.call? d.store.store d'.store.store := by
  cases r with
  | readSession id =>
    obtain rfl : (d.perform .getSession fun now => Store.getSession now id).2 = d' :=
      congrArg Prod.snd (Option.some.inj h)
    exact d.called_getSession .getSession id
  | openTask callId parent title =>
    obtain rfl : (d.perform .openTask fun now => Store.openTask now callId parent title).2 = d' :=
      congrArg Prod.snd (Option.some.inj h)
    exact d.called_perform .openTask _ (.openTask callId parent title) fun _ s => by
      cases s <;> rfl
  | submit session prompt =>
    refine .inl (congrArg WatchedStore.store ?_)
    simp only [answerDelegation?] at h
    split at h
    · rename_i hsubmit
      cases h
      exact store_submit hsubmit
    · rename_i hsubmit
      cases h
      exact store_submit hsubmit
    · cases h
  | awaitTurn turn =>
    simp only [answerDelegation?] at h
    split at h <;> cases h
    exact .inl rfl
  | saveSession x =>
    obtain rfl : (d.perform .saveSession fun now => Store.saveSession now x).2 = d' :=
      congrArg Prod.snd (Option.some.inj h)
    exact d.called_saveSession .saveSession x

/-- A session that a delegation has read. -/
theorem read_of_answer {e : Errand} {peer : PostId} {id : String} {x : Session}
    (h : d.answerDelegation? e peer (.readSession id) =
      some ((.ok x : Except StoreFailure Session), d')) :
    (Store.getSession d.now id d.store.store).result = .ok x ∧
      d'.store.store = (Store.getSession d.now id d.store.store).store := by
  have hreply : (d.perform .getSession fun now => Store.getSession now id).1 = .ok x :=
    congrArg Prod.fst (Option.some.inj h)
  have hdesk : (d.perform .getSession fun now => Store.getSession now id).2 = d' :=
    congrArg Prod.snd (Option.some.inj h)
  exact hdesk ▸ perform_eq_ok hreply

/-- A session that a delegation has saved. -/
theorem saved_of_answer {e : Errand} {peer : PostId} {s x : Session}
    (h : d.answerDelegation? e peer (.saveSession s) =
      some ((.ok x : Except StoreFailure Session), d')) :
    (Store.saveSession d.now s d.store.store).result = .ok x ∧
      d'.store.store = (Store.saveSession d.now s d.store.store).store := by
  have hreply : (d.perform .saveSession fun now => Store.saveSession now s).1 = .ok x :=
    congrArg Prod.fst (Option.some.inj h)
  have hdesk : (d.perform .saveSession fun now => Store.saveSession now s).2 = d' :=
    congrArg Prod.snd (Option.some.inj h)
  exact hdesk ▸ perform_eq_ok hreply

/-- How an errand calls the store. -/
theorem called_stepErrand? {e e' : Errand} (h : d.stepErrand? e = some (e', d')) :
    Called e.call? d.store.store d'.store.store := by
  obtain ⟨stage, -, hgoes⟩ := goes_stepErrand? h
  cases hgoes with
  | begins body =>
    refine .inl ?_
    cases body <;> rfl
  | ends => exact .inl rfl
  | delegates peer setup p reply d' hstage hanswer =>
    rw [Errand.call?, hstage]
    exact called_answerDelegation? hanswer

/-! ## Moves -/

/-- A move that is no step calls no store. -/
theorem store_move (d : Desk) {m : DeskMove} (hm : ∀ task, m ≠ .step task) :
    (d.move m).store = d.store := by
  cases m with
  | step task => exact absurd rfl (hm task)
  | submit post parent session prompt files =>
    simp only [move]
    split
    · rename_i hsubmit
      exact store_submit hsubmit
    · rfl
  | cancel post session =>
    simp only [move, cancel]
    split <;> rfl
  | clearQueue | cancelToken | forkToken | release | ask => rfl

/-- The answer in the exchange of a turn, and the store behind its step. -/
theorem answer?_of_exchange? {e : Exchange} (h : d.exchange? i = some e) :
    ∃ t t' d', d.turns[i]? = some t ∧ d.answer? t e.request = some (e.reply, t', d') ∧
      (d.move (.step (.turn i))).store = d'.store := by
  unfold exchange? at h
  split at h
  · cases h
  · rename_i t ht
    split at h
    · rename_i p hstage
      obtain ⟨⟨reply, t', d'⟩, hanswer, rfl⟩ := Option.map_eq_some_iff.mp h
      refine ⟨t, t', d', ht, hanswer, ?_⟩
      simp only [move_turn ht, stepTask?, hstage, stepCourse?, hanswer]
      cases p.resume t.setup d'.now reply <;> rfl
    · cases h

/-- A session that a turn has read. -/
theorem read_of_exchange? {x : Session}
    (h : d.exchange? i = some ⟨.readSession, (.ok x : Except StoreFailure Session)⟩) :
    ∃ t, d.turns[i]? = some t ∧
      (Store.getSession d.now t.setup.sessionId d.store.store).result = .ok x ∧
      (d.move (.step (.turn i))).store.store =
        (Store.getSession d.now t.setup.sessionId d.store.store).store := by
  obtain ⟨t, t', d', ht, hanswer, hstore⟩ := answer?_of_exchange? h
  have hreply : (d.perform .getSession fun now =>
      Store.getSession now t.setup.sessionId).1 = .ok x :=
    congrArg Prod.fst (Option.some.inj hanswer)
  have hdesk : (d.perform .getSession fun now =>
      Store.getSession now t.setup.sessionId).2 = d' :=
    congrArg (·.2.2) (Option.some.inj hanswer)
  obtain ⟨hresult, hbehind⟩ := perform_eq_ok hreply
  exact ⟨t, ht, hresult, by rw [hstore, ← hdesk, hbehind]⟩

/-- A session that a turn has saved. -/
theorem saved_of_exchange? {s x : Session}
    (h : d.exchange? i = some ⟨.saveSession s, (.ok x : Except StoreFailure Session)⟩) :
    (Store.saveSession d.now s d.store.store).result = .ok x ∧
      (d.move (.step (.turn i))).store.store =
        (Store.saveSession d.now s d.store.store).store := by
  obtain ⟨t, t', d', -, hanswer, hstore⟩ := answer?_of_exchange? h
  have hreply : (d.perform .saveSession fun now => Store.saveSession now s).1 = .ok x :=
    congrArg Prod.fst (Option.some.inj hanswer)
  have hdesk : (d.perform .saveSession fun now => Store.saveSession now s).2 = d' :=
    congrArg (·.2.2) (Option.some.inj hanswer)
  obtain ⟨hresult, hbehind⟩ := perform_eq_ok hreply
  exact ⟨hresult, by rw [hstore, ← hdesk, hbehind]⟩

/-- A turn that exchanges nothing calls no store. -/
theorem store_of_exchange?_eq_none (h : d.exchange? i = none) :
    (d.move (.step (.turn i))).store = d.store := by
  unfold exchange? at h
  split at h
  · rename_i ht
    simp [move, step?, stepTurn?, ht]
  · rename_i t ht
    rw [move_turn ht]
    unfold stepTask?
    cases hstage : t.stage with
    | working p =>
      rw [hstage] at h
      have hanswer : d.answer? t (p.request t.setup) = none := by simpa using h
      simp [stepCourse?, hanswer]
    | unregistering outcome | delivering outcome | ended outcome => rfl

theorem turnCall?_of_exchange? {x : Exchange} (ht : d.turns[i]? = some t)
    (h : d.exchange? i = some x) : d.turnCall? t =
      x.request.call? (d.nextMessageId t.setup.sessionId) t.setup.sessionId := by
  unfold exchange? at h
  rw [ht] at h
  dsimp only at h
  split at h
  · rename_i p hstage
    obtain ⟨r, -, rfl⟩ := Option.map_eq_some_iff.mp h
    simp only [turnCall?, hstage]
  · cases h

/-- A step of the errand in a place. -/
theorem called_errand {k : TaskId} (hk : ∀ i, k ≠ .turn i) :
    Called ((d.errandOf? k).bind Errand.call?) d.store.store (d.move (.step k)).store.store := by
  cases he : d.errandOf? k with
  | none => exact .inl (by rw [move_of_errandOf?_eq_none hk he])
  | some e =>
    cases hstep : d.stepErrand? e with
    | none => exact .inl (by rw [move_of_stepErrand?_eq_none he hstep])
    | some r =>
      obtain ⟨e', d'⟩ := r
      rw [(errandOf?_step he hstep).2]
      exact called_stepErrand? hstep

/-- **Every move calls the store at most once**, and in a way that is known beforehand. -/
theorem called_move (d : Desk) (m : DeskMove) :
    Called (d.call? m) d.store.store (d.move m).store.store := by
  cases m with
  | step k =>
    cases k with
    | toolOf i | errand i => exact called_errand fun _ h => by cases h
    | turn i =>
      cases he : d.exchange? i with
      | none => exact .inl (congrArg WatchedStore.store (store_of_exchange?_eq_none he))
      | some x =>
        obtain ⟨t, t', d', ht, hanswer, hstore⟩ := answer?_of_exchange? he
        rw [call?, ht, Option.bind_some, turnCall?_of_exchange? ht he, hstore]
        exact called_answer? hanswer
  | _ => exact .inl (congrArg WatchedStore.store (d.store_move fun _ h => by cases h))

end Desk

end AgentDesk
