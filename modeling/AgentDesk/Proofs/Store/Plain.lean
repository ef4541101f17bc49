import AgentDesk.Proofs.Message.Written
import AgentDesk.Proofs.Store.Accounts
import AgentDesk.Proofs.Tables
/-!
# The store behind both stores

The plain store says what a store does, without the way in which it keeps things: it opens a session
the first time that one is asked for, keeps the account of a session as it was last saved, keeps the
messages in the order in which they were created, and counts the messages of a session whenever it
reports one. What a caller sees of a store is compared with it times aside, and without the sign of
a cost of zero.

## Main definitions

* `Account.plain`, `Session.plain`, `Message.plain` — without times and the sign of a zero.
* `Outcome` and `StoreReply.outcome` — what a caller sees of a reply.
* `PlainStore` and `PlainStore.answer` — the store, and one call of it.
* `PlainStore.Sound` — what holds of the store after every call.
* `PlainStore.Fits` — the calls that stores agree on.
-/

namespace AgentDesk

/-! ## What is compared -/

/-- A cost without the sign of a zero. -/
def unsigned (x : Float) : Float := if x == 0 then 0 else x

/-- An account without the sign of a cost of zero. -/
def Account.plain (a : Account) : Account := { a with cost := unsigned a.cost }

/-- Counters that fit into signed words, and a cost that is a number. -/
structure Account.Countable (a : Account) : Prop where
  prompt : a.promptTokens < 2 ^ 63
  completion : a.completionTokens < 2 ^ 63
  cost : a.cost.isNaN = false

/-- The session with an account and so many messages, its times aside. -/
def Account.session (a : Account) (id : String) (count : Nat) : Session :=
  ⟨id, a.parent, a.title, count, a.promptTokens, a.completionTokens, a.summary, a.cost, default,
    default⟩

/-- A session, its times and the sign of a cost of zero aside. -/
def Session.plain (s : Session) : Session := s.account.plain.session s.id s.messageCount

/-- A message, its times aside. -/
def Message.plain (m : Message) : Message := { m with createdAt := default, updatedAt := default }

/-- An answer, times aside. -/
def StoreAnswer.plain : StoreAnswer → StoreAnswer
  | .session s => .session s.plain
  | .sessions ss => .sessions (ss.map Session.plain)
  | .message m => .message m.plain
  | .messages ms => .messages (ms.map Message.plain)
  | .done => .done

/-- An announcement, times aside. -/
def Change.plain (c : Change Message) : Change Message := { c with payload := c.payload.plain }

/-- What a caller sees of a reply, times aside. -/
structure Outcome where
  result : Except StoreFailure StoreAnswer
  changes : List (Change Message)

/-- What a caller sees of a reply, times aside. -/
def StoreReply.outcome (r : StoreReply σ StoreAnswer) : Outcome :=
  ⟨r.result.map StoreAnswer.plain, r.changes.map Change.plain⟩

theorem unsigned_unsigned (x : Float) : unsigned (unsigned x) = unsigned x := by
  by_cases h : x == 0
  · simp [unsigned, h]
  · simp [unsigned, h]

theorem isNaN_of_beq_zero {x : Float} (h : x == 0) : x.isNaN = false := by
  obtain ⟨sign, hx⟩ := beq_zero_iff.mp h
  have hunpack : x.isNaN = x.toModel.unpack.isNaN := rfl
  rw [hunpack, hx]
  rfl

theorem isNaN_unsigned (x : Float) : (unsigned x).isNaN = x.isNaN := by
  unfold unsigned
  split
  · rename_i h
    rw [isNaN_of_beq_zero h, isNaN_of_beq_zero (x := 0) (by rfl)]
  · rfl

theorem Account.plain_plain (a : Account) : a.plain.plain = a.plain := by
  simp [Account.plain, unsigned_unsigned]

theorem Account.Countable.plain {a : Account} (h : a.Countable) : a.plain.Countable :=
  ⟨h.prompt, h.completion, (isNaN_unsigned a.cost).trans h.cost⟩

theorem Account.plain_session (a : Account) (id : String) (n : Nat) :
    (a.session id n).plain = a.plain.session id n := rfl

theorem unsigned_zero : unsigned 0 = 0 := by rfl

theorem Session.plain_fresh (id title : String) (now : Timestamp) :
    (Session.fresh id title now).account.plain = { Account.new with title } := by
  simp [Session.fresh, Session.account, Account.plain, Account.new, unsigned_zero]

theorem Session.plain_task (id parent title : String) (now : Timestamp) :
    (Session.task id parent title now).account.plain =
      { Account.new with title, parent := some parent } := by
  simp [Session.task, Session.fresh, Session.account, Account.plain, Account.new, unsigned_zero]

/-- What a caller sees of a reply with one session. -/
def Outcome.ofSession (x : Session) : Outcome := ⟨.ok (.session x), []⟩

/-- What a caller sees of a reply that announces the removal of messages. -/
theorem outcome_deleted (store : σ) (ms : List Message) :
    (⟨.ok .done, store, ms.map (⟨.deleted, ·⟩)⟩ : StoreReply σ StoreAnswer).outcome =
      ⟨.ok .done, (ms.map Message.plain).map (⟨.deleted, ·⟩)⟩ := by
  rw [List.map_map, StoreReply.outcome, List.map_map]
  rfl

/-- The sessions in an answer. -/
def StoreAnswer.sessionList : StoreAnswer → List Session
  | .session s => [s]
  | .sessions ss => ss
  | _ => []

/-- The messages in an answer. -/
def StoreAnswer.messageList : StoreAnswer → List Message
  | .message m => [m]
  | .messages ms => ms
  | _ => []

/-- The sessions that a reply returns. -/
def StoreReply.sessions (r : StoreReply σ StoreAnswer) : List Session :=
  match r.result with
  | .ok a => a.sessionList
  | .error _ => []

/-- The messages that a reply returns. -/
def StoreReply.messages (r : StoreReply σ StoreAnswer) : List Message :=
  match r.result with
  | .ok a => a.messageList
  | .error _ => []

/-! ## The store -/

/-- What is kept of a session: its account, and when it was saved last. -/
structure Entry where
  account : Account
  changedAt : Timestamp

/-- Sessions by identifier, and all messages in order of creation. -/
structure PlainStore where
  sessions : Table String Entry
  messages : List Message

/-- The session that a call may open or give a message to. -/
def StoreCall.opened : StoreCall → List String
  | .createSession id _ | .openTask id _ _ | .getSession id | .createMessage _ id _ => [id]
  | _ => []

/-- The message that a call creates. -/
def StoreCall.created : StoreCall → List String
  | .createMessage id _ _ => [id]
  | _ => []

namespace PlainStore

/-- The store without content. -/
def empty : PlainStore := ⟨[], []⟩

/-- The messages of a session. -/
def messagesOf (s : PlainStore) (session : String) : List Message :=
  s.messages.filter (·.sessionId == session)

/-- A session as it is reported, with the number of its messages. -/
def report (s : PlainStore) (id : String) (e : Entry) : Session :=
  e.account.session id (s.messagesOf id).length

/-- Keeps a session. -/
def keep (s : PlainStore) (now : Timestamp) (id : String) (a : Account) :
    StoreReply PlainStore StoreAnswer :=
  .quiet { s with sessions := Table.put id ⟨a, now⟩ s.sessions }
    (.ok (.session (s.report id ⟨a, now⟩)))

/-- The session with an identifier; it is opened with the account if it is missing. -/
def openSession (s : PlainStore) (now : Timestamp) (id : String) (a : Account) :
    StoreReply PlainStore StoreAnswer :=
  match Table.get? id s.sessions with
  | some e => .quiet s (.ok (.session (s.report id e)))
  | none => s.keep now id a

/-- All sessions, the latest change first. -/
def listSessions (s : PlainStore) : StoreReply PlainStore StoreAnswer :=
  let entries := s.sessions.mergeSort fun a b => !a.2.changedAt.before b.2.changedAt
  .quiet s (.ok (.sessions (entries.map fun e => s.report e.1 e.2)))

/-- Creates a message behind all others. -/
def createMessage (s : PlainStore) (m : Message) : StoreReply PlainStore StoreAnswer :=
  ⟨.ok (.message m), { s with messages := s.messages ++ [m] }, [⟨.created, m⟩]⟩

/-- Changes the parts, the model and the provider of a message that exists. -/
def updateMessage (s : PlainStore) (x : Message) : StoreReply PlainStore StoreAnswer :=
  let change (m : Message) : Message :=
    { m with parts := x.parts, model := x.model, provider := x.provider }
  match s.messages.find? (·.id == x.id) with
  | none => .quiet s (.error (.messageNotFound x.id))
  | some found =>
    ⟨.ok .done,
      { s with messages := s.messages.map fun m => if m.id == x.id then change m else m },
      [⟨.updated, change found⟩]⟩

/-- Finds a message. -/
def getMessage (s : PlainStore) (id : String) : StoreReply PlainStore StoreAnswer :=
  .quiet s <| match s.messages.find? (·.id == id) with
    | some m => .ok (.message m)
    | none => .error (.messageNotFound id)

/-- Removes the messages of a session. -/
def deleteMessages (s : PlainStore) (session : String) : StoreReply PlainStore StoreAnswer :=
  ⟨.ok .done, { s with messages := s.messages.filter fun m => !(m.sessionId == session) },
    (s.messagesOf session).map (⟨.deleted, ·⟩)⟩

/-- One call of the store. -/
def answer (now : Timestamp) (s : PlainStore) : StoreCall → StoreReply PlainStore StoreAnswer
  | .createSession id title => s.openSession now id { Account.new with title }
  | .openTask callId parent title =>
    s.openSession now callId { Account.new with title, parent := some parent }
  | .getSession id => s.openSession now id .new
  | .saveSession x => s.keep now x.id x.account.plain
  | .listSessions => s.listSessions
  | .createMessage id session draft => s.createMessage (draft.toMessage id session now).plain
  | .updateMessage x => s.updateMessage x
  | .getMessage id => s.getMessage id
  | .listMessages session => .quiet s (.ok (.messages (s.messagesOf session)))
  | .deleteMessages session => s.deleteMessages session

/-- A new session without messages is reported as it is. -/
theorem report_fresh {s : PlainStore} {id : String} (h : s.messagesOf id = []) (title : String)
    (now : Timestamp) : (Session.fresh id title now).plain =
      (s.report id ⟨{ Account.new with title }, now⟩).plain := by
  rw [report, h, Account.plain_session, ← Session.plain_fresh id title now, Account.plain_plain]
  rfl

/-! ## What holds after every call -/

/-- What holds of the store after every call. -/
structure Sound (s : PlainStore) : Prop where
  keys : s.sessions.keys.Nodup
  times : ∀ e ∈ s.sessions, e.2.changedAt.FourDigit
  countable : ∀ e ∈ s.sessions, e.2.account.Countable
  ids : (s.messages.map (·.id)).Nodup
  timed : ∀ m ∈ s.messages, ∀ p ∈ m.parts, p.Timed

/-- The store keeps a session with the same parent. -/
def Knows (s : PlainStore) (x : Session) : Prop :=
  ∃ e, Table.get? x.id s.sessions = some e ∧ e.account.parent = x.parent

/-- A stored message with the same identifier belongs to the same session and has the same role. -/
def Agrees (s : PlainStore) (x : Message) : Prop :=
  ∀ m ∈ s.messages, m.id = x.id → m.sessionId = x.sessionId ∧ m.role = x.role

/-- The calls that stores agree on: a new session and a new message have identifiers of their own,
a session that is saved is kept with the same parent, and a message that is changed stays in its
session and role. -/
def Fits (s : PlainStore) : StoreCall → Prop
  | .createSession id _ => Table.get? id s.sessions = none ∧ s.messagesOf id = []
  | .saveSession x => s.Knows x ∧ x.account.Countable
  | .createMessage id _ draft => (∀ m ∈ s.messages, m.id ≠ id) ∧ ∀ p ∈ draft.parts, p.Timed
  | .updateMessage x =>
    s.Agrees x ∧ ((∃ m ∈ s.messages, m.id = x.id) → ∀ p ∈ x.parts, p.Timed)
  | _ => True

variable {now : Timestamp} {s : PlainStore} {id : String} {a : Account} {c : StoreCall}
  {x : Session} {y : Message}

/-! ### Each call in turn -/

theorem sound_empty : Sound empty :=
  ⟨List.nodup_nil, by simp [empty], by simp [empty], List.nodup_nil, by simp [empty]⟩

theorem Sound.keep (h : s.Sound) (hnow : now.FourDigit) (ha : a.Countable) :
    (s.keep now id a).store.Sound where
  keys := Table.nodup_keys_put id (⟨a, now⟩ : Entry) h.keys
  times e he := by
    rcases Table.mem_put he with rfl | he
    · exact hnow
    · exact h.times e he
  countable e he := by
    rcases Table.mem_put he with rfl | he
    · exact ha
    · exact h.countable e he
  ids := h.ids
  timed := h.timed

theorem Sound.openSession (h : s.Sound) (hnow : now.FourDigit) (ha : a.Countable) :
    (s.openSession now id a).store.Sound := by
  unfold PlainStore.openSession
  split
  · exact h
  · exact h.keep hnow ha

theorem Sound.createMessage (h : s.Sound) (hid : ∀ m ∈ s.messages, m.id ≠ y.id)
    (hparts : ∀ p ∈ y.parts, p.Timed) : (s.createMessage y).store.Sound where
  keys := h.keys
  times := h.times
  countable := h.countable
  ids := by
    rw [show (s.createMessage y).store.messages = s.messages ++ [y] from rfl, List.map_append]
    refine List.nodup_append.mpr ⟨h.ids, List.nodup_singleton _, ?_⟩
    rintro a ha b hb rfl
    obtain ⟨m, hm, rfl⟩ := List.mem_map.mp ha
    exact hid m hm (List.mem_singleton.mp hb)
  timed m hm := by
    rcases List.mem_append.mp hm with hm | hm
    · exact h.timed m hm
    · exact List.mem_singleton.mp hm ▸ hparts

theorem Sound.updateMessage (h : s.Sound)
    (hparts : (∃ m ∈ s.messages, m.id = y.id) → ∀ p ∈ y.parts, p.Timed) :
    (s.updateMessage y).store.Sound := by
  unfold PlainStore.updateMessage
  split
  · exact h
  · rename_i found hfound
    have hparts := hparts ⟨found, List.mem_of_find?_eq_some hfound,
      beq_iff_eq.mp (List.find?_some hfound :)⟩
    refine ⟨h.keys, h.times, h.countable, ?_, ?_⟩
    · -- The change keeps every identifier.
      rw [List.map_map]
      have hids : ((fun m : Message => m.id) ∘ fun m => if m.id == y.id then
          { m with parts := y.parts, model := y.model, provider := y.provider } else m) =
            fun m => m.id := by
        funext m
        dsimp only [Function.comp_apply]
        split <;> rfl
      rw [hids]
      exact h.ids
    · intro m hm
      obtain ⟨old, hold, rfl⟩ := List.mem_map.mp hm
      dsimp only
      split
      · exact hparts
      · exact h.timed old hold

theorem Sound.deleteMessages (h : s.Sound) (session : String) :
    (s.deleteMessages session).store.Sound :=
  ⟨h.keys, h.times, h.countable, h.ids.sublist (List.filter_sublist.map _),
    fun m hm => h.timed m (List.mem_of_mem_filter hm)⟩

theorem countable_new (title : String) (parent : Option String) :
    ({ Account.new with title, parent } : Account).Countable :=
  ⟨show 0 < 2 ^ 63 by decide, show 0 < 2 ^ 63 by decide, isNaN_of_beq_zero (x := 0) (by rfl)⟩

/-- **Every call leaves the store sound.** -/
theorem Sound.answer (h : s.Sound) (hnow : now.FourDigit) (hfits : s.Fits c) :
    (s.answer now c).store.Sound := by
  cases c with
  | createSession id title => exact h.openSession hnow (countable_new title none)
  | openTask callId parent title => exact h.openSession hnow (countable_new title (some parent))
  | getSession id => exact h.openSession hnow (countable_new _ none)
  | saveSession x => exact h.keep hnow hfits.2.plain
  | createMessage id session draft => exact h.createMessage hfits.1 hfits.2
  | updateMessage x => exact h.updateMessage hfits.2
  | deleteMessages session => exact h.deleteMessages session
  | listSessions | getMessage | listMessages => exact h

/-! ### What stays known -/

theorem Knows.keep (h : s.Knows x) (ha : id = x.id → a.parent = x.parent) :
    (s.keep now id a).store.Knows x := by
  by_cases hid : id = x.id
  · exact ⟨⟨a, now⟩, hid ▸ Table.get?_put_self .., ha hid⟩
  · obtain ⟨e, hget, hparent⟩ := h
    exact ⟨e, (Table.get?_put_of_ne (Ne.symm hid) ..).trans hget, hparent⟩

theorem Knows.openSession (h : s.Knows x) (id : String) (a : Account) :
    (s.openSession now id a).store.Knows x := by
  unfold PlainStore.openSession
  split
  · exact h
  · rename_i hnone
    refine h.keep fun hid => ?_
    obtain ⟨e, hget, -⟩ := h
    rw [hid, hget] at hnone
    cases hnone

/-- A session that is kept stays kept, and its parent stays the same. -/
theorem Knows.answer (h : s.Knows x) (hfits : s.Fits c) : (s.answer now c).store.Knows x := by
  cases c with
  | createSession id title => exact h.openSession ..
  | openTask callId parent title => exact h.openSession ..
  | getSession id => exact h.openSession ..
  | saveSession y =>
    refine h.keep fun hid => ?_
    obtain ⟨⟨e, hget, hparent⟩, -⟩ := hfits
    obtain ⟨e', hget', hparent'⟩ := h
    rw [hid, hget'] at hget
    cases hget
    exact hparent.symm.trans hparent'
  | updateMessage y =>
    unfold PlainStore.answer PlainStore.updateMessage
    dsimp only
    split <;> exact h
  | listSessions | createMessage | getMessage | listMessages | deleteMessages => exact h

theorem messages_openSession (s : PlainStore) (now : Timestamp) (id : String) (a : Account) :
    (s.openSession now id a).store.messages = s.messages := by
  unfold PlainStore.openSession
  split <;> rfl

/-- A message agrees with what is stored as long as its identifier is not used again. -/
theorem Agrees.answer (h : s.Agrees y) (hfresh : y.id ∉ c.created) :
    (s.answer now c).store.Agrees y := by
  cases c with
  | createMessage id session draft =>
    intro m hm hid
    rcases List.mem_append.mp hm with hm | hm
    · exact h m hm hid
    · obtain rfl := List.mem_singleton.mp hm
      exact absurd (List.mem_singleton.mpr hid.symm) hfresh
  | updateMessage x =>
    unfold PlainStore.answer PlainStore.updateMessage
    dsimp only
    split
    · exact h
    · intro m hm hid
      obtain ⟨old, hold, rfl⟩ := List.mem_map.mp hm
      split at hid
      · rename_i hx
        rw [if_pos hx]
        exact h old hold hid
      · rename_i hx
        rw [if_neg hx]
        exact h old hold hid
  | deleteMessages session => exact fun m hm => h m (List.mem_of_mem_filter hm)
  | createSession id title => exact fun m hm => h m (messages_openSession .. ▸ hm)
  | openTask callId parent title => exact fun m hm => h m (messages_openSession .. ▸ hm)
  | getSession id => exact fun m hm => h m (messages_openSession .. ▸ hm)
  | saveSession | listSessions | getMessage | listMessages => exact h

/-! ### What is added -/

theorem mem_openSession {e : String × Entry} (he : e ∈ (s.openSession now id a).store.sessions) :
    e ∈ s.sessions ∨ e.1 = id := by
  unfold PlainStore.openSession at he
  split at he
  · exact .inl he
  · rcases Table.mem_put he with rfl | he
    · exact .inr rfl
    · exact .inl he

/-- A session that is kept was kept before, or is opened by the call. -/
theorem named_answer {e : String × Entry} (hfits : s.Fits c)
    (he : e ∈ (s.answer now c).store.sessions) : e.1 ∈ s.sessions.keys ∨ e.1 ∈ c.opened := by
  have hopen : ∀ {id a}, e ∈ (s.openSession now id a).store.sessions →
      e.1 ∈ s.sessions.keys ∨ e.1 ∈ [id] :=
    fun he => (mem_openSession he).imp List.mem_map_of_mem List.mem_singleton.mpr
  cases c with
  | createSession id title => exact hopen he
  | openTask id parent title => exact hopen he
  | getSession id => exact hopen he
  | saveSession x =>
    rcases Table.mem_put he with rfl | he
    · obtain ⟨⟨kept, hget, -⟩, -⟩ := hfits
      exact .inl (List.mem_map.mpr ⟨_, Table.mem_of_get? hget, rfl⟩)
    · exact .inl (List.mem_map_of_mem he)
  | updateMessage y =>
    simp only [answer, updateMessage] at he
    split at he <;> exact .inl (List.mem_map_of_mem he)
  | listSessions | createMessage | getMessage | listMessages | deleteMessages =>
    exact .inl (List.mem_map_of_mem he)

/-- A message that is stored was stored before, or is created by the call. -/
theorem stored_answer {m : Message} (hm : m ∈ (s.answer now c).store.messages) :
    (∃ old ∈ s.messages, old.id = m.id ∧ old.sessionId = m.sessionId) ∨
      m.id ∈ c.created ∧ m.sessionId ∈ c.opened := by
  cases c with
  | createMessage id session draft =>
    rcases List.mem_append.mp hm with hm | hm
    · exact .inl ⟨m, hm, rfl, rfl⟩
    · obtain rfl := List.mem_singleton.mp hm
      exact .inr ⟨List.mem_singleton.mpr rfl, List.mem_singleton.mpr rfl⟩
  | updateMessage y =>
    simp only [answer, updateMessage] at hm
    split at hm
    · exact .inl ⟨m, hm, rfl, rfl⟩
    · obtain ⟨old, hold, rfl⟩ := List.mem_map.mp hm
      refine .inl ⟨old, hold, ?_⟩
      split <;> exact ⟨rfl, rfl⟩
  | deleteMessages session => exact .inl ⟨m, List.mem_of_mem_filter hm, rfl, rfl⟩
  | createSession id title => exact .inl ⟨m, messages_openSession .. ▸ hm, rfl, rfl⟩
  | openTask id parent title => exact .inl ⟨m, messages_openSession .. ▸ hm, rfl, rfl⟩
  | getSession id => exact .inl ⟨m, messages_openSession .. ▸ hm, rfl, rfl⟩
  | saveSession | listSessions | getMessage | listMessages => exact .inl ⟨m, hm, rfl, rfl⟩

/-! ### What is returned -/

theorem knows_keep (hx : x ∈ (s.keep now id a).sessions) :
    (s.keep now id a).store.Knows x ∧ x.account = a := by
  obtain rfl := List.mem_singleton.mp hx
  exact ⟨⟨⟨a, now⟩, Table.get?_put_self .., rfl⟩, rfl⟩

theorem knows_openSession (h : s.Sound) (ha : a.Countable)
    (hx : x ∈ (s.openSession now id a).sessions) :
    (s.openSession now id a).store.Knows x ∧ x.account.Countable := by
  unfold PlainStore.openSession at hx ⊢
  split at hx
  · rename_i e hget
    obtain rfl := List.mem_singleton.mp hx
    exact ⟨⟨e, hget, rfl⟩, h.countable (id, e) (Table.mem_of_get? hget)⟩
  · rename_i hget
    obtain ⟨hknows, haccount⟩ := knows_keep hx
    exact ⟨hknows, haccount ▸ ha⟩

/-- **A session that is returned is kept, with the same parent.** -/
theorem knows_of_returned (h : s.Sound) (hfits : s.Fits c) (hx : x ∈ (s.answer now c).sessions) :
    (s.answer now c).store.Knows x ∧ x.account.Countable := by
  cases c with
  | createSession id title => exact knows_openSession h (countable_new title none) hx
  | openTask id parent title => exact knows_openSession h (countable_new title (some parent)) hx
  | getSession id => exact knows_openSession h (countable_new _ none) hx
  | saveSession y =>
    obtain ⟨hknows, haccount⟩ := knows_keep hx
    exact ⟨hknows, haccount ▸ hfits.2.plain⟩
  | listSessions =>
    obtain ⟨e, he, rfl⟩ := List.mem_map.mp hx
    have he := List.mem_mergeSort.mp he
    exact ⟨⟨e.2, Table.get?_of_mem h.keys he, rfl⟩, h.countable e he⟩
  | createMessage | listMessages | deleteMessages => cases hx
  | updateMessage y =>
    simp only [answer, updateMessage] at hx
    split at hx <;> cases hx
  | getMessage id =>
    simp only [answer, getMessage] at hx
    split at hx <;> cases hx

/-- **A message that is returned is stored.** -/
theorem mem_of_returned (hy : y ∈ (s.answer now c).messages) :
    y ∈ (s.answer now c).store.messages := by
  cases c with
  | createMessage id session draft =>
    exact List.mem_append_right _ hy
  | listMessages session => exact List.mem_of_mem_filter hy
  | getMessage id =>
    simp only [answer, getMessage] at hy
    split at hy
    · rename_i m hm
      obtain rfl := List.mem_singleton.mp hy
      exact List.mem_of_find?_eq_some hm
    · cases hy
  | updateMessage x =>
    simp only [answer, updateMessage] at hy
    split at hy <;> cases hy
  | createSession id title =>
    simp only [answer, openSession] at hy
    split at hy <;> cases hy
  | openTask id parent title =>
    simp only [answer, openSession] at hy
    split at hy <;> cases hy
  | getSession id =>
    simp only [answer, openSession] at hy
    split at hy <;> cases hy
  | saveSession | listSessions | deleteMessages => cases hy

/-- A stored message agrees with what is stored, because no two messages share an identifier. -/
theorem Sound.agrees (h : s.Sound) (hy : y ∈ s.messages) : s.Agrees y := by
  intro m hm hid
  obtain rfl := List.inj_on_of_nodup_map h.ids hm hy hid
  exact ⟨rfl, rfl⟩

/-- **A session is returned with the number of its stored messages.** -/
theorem messageCount_of_returned (hx : x ∈ (s.answer now c).sessions) :
    x.messageCount = ((s.answer now c).store.messagesOf x.id).length := by
  have hopen : ∀ {id a}, x ∈ (s.openSession now id a).sessions →
      x.messageCount = ((s.openSession now id a).store.messagesOf x.id).length := by
    intro id a hx
    unfold PlainStore.openSession at hx ⊢
    split at hx <;> (obtain rfl := List.mem_singleton.mp hx; rfl)
  cases c with
  | createSession id title => exact hopen hx
  | openTask id parent title => exact hopen hx
  | getSession id => exact hopen hx
  | saveSession y =>
    obtain rfl := List.mem_singleton.mp hx
    rfl
  | listSessions =>
    obtain ⟨e, -, rfl⟩ := List.mem_map.mp hx
    rfl
  | createMessage | listMessages | deleteMessages => cases hx
  | updateMessage y =>
    simp only [answer, updateMessage] at hx
    split at hx <;> cases hx
  | getMessage id =>
    simp only [answer, getMessage] at hx
    split at hx <;> cases hx

/-- **A call that fails changes and announces nothing.** -/
theorem unchanged_of_error {f : StoreFailure} (h : (s.answer now c).result = .error f) :
    (s.answer now c).store = s ∧ (s.answer now c).changes = [] := by
  have hopen : ∀ {id a}, (s.openSession now id a).result ≠ .error f := by
    intro id a
    unfold PlainStore.openSession
    split <;> exact fun h => by cases h
  cases c with
  | createSession id title => exact absurd h hopen
  | openTask id parent title => exact absurd h hopen
  | getSession id => exact absurd h hopen
  | updateMessage y =>
    simp only [answer, updateMessage] at h ⊢
    split at h
    · exact ⟨rfl, rfl⟩
    · cases h
  | getMessage id => exact ⟨rfl, rfl⟩
  | saveSession | listSessions | createMessage | listMessages | deleteMessages => cases h

end PlainStore

end AgentDesk
