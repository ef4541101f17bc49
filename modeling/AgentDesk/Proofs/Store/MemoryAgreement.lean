import AgentDesk.Proofs.Store.Clients
/-!
# The store in memory and the plain store

The table of sessions shows, under each identifier, the account of the session and the time of its
last change; the messages are those of the plain store. Every call that fits is answered alike and
leaves such a table behind.

## Main definitions

* `MemoryStore.Shows` — what the store in memory keeps is the content of the plain store.
-/

namespace AgentDesk

/-- What the plain store keeps of a session. -/
def Session.entry (x : Session) : Entry := ⟨x.account.plain, x.updatedAt⟩

namespace MemoryStore

/-- What the store in memory keeps is the content of the plain store. -/
structure Shows (m : MemoryStore) (s : PlainStore) : Prop where
  filed : ∀ e ∈ m.sessions, e.2.id = e.1
  sessions : Table.mapValues Session.entry m.sessions = s.sessions
  messages : m.messages.map Message.plain = s.messages

variable {m : MemoryStore} {s : PlainStore} {now : Timestamp} {x : Session} {y : Message}

theorem shows_empty : Shows empty .empty := ⟨by simp [empty], rfl, rfl⟩

theorem Shows.messagesOf (h : Shows m s) (id : String) :
    (m.messagesOf id).map Message.plain = s.messagesOf id := by
  rw [PlainStore.messagesOf, ← h.messages, List.filter_map]
  rfl

theorem Shows.plain_messagesOf (h : Shows m s) (id : String) :
    (m.messagesOf id).map Message.plain = (s.messagesOf id).map Message.plain := by
  rw [← h.messagesOf, List.map_map]
  rfl

/-- A session is reported alike. -/
theorem Shows.counted (h : Shows m s) (x : Session) :
    (m.counted x).plain = (s.report x.id x.entry).plain := by
  have hcount : (m.messagesOf x.id).length = (s.messagesOf x.id).length := by
    rw [← h.messagesOf, List.length_map]
  rw [PlainStore.report, Account.plain_session, Session.entry, Account.plain_plain, ← hcount]
  rfl

theorem Shows.get? (h : Shows m s) (id : String) :
    Table.get? id s.sessions = (Table.get? id m.sessions).map Session.entry := by
  rw [← h.sessions, Table.get?_mapValues]

/-- A session that is put there is kept by the plain store. -/
theorem Shows.put (h : Shows m s) (x : Session) :
    Shows { m with sessions := Table.put x.id x m.sessions }
      { s with sessions := Table.put x.id x.entry s.sessions } where
  filed e he := by
    rcases Table.mem_put he with rfl | he
    · rfl
    · exact h.filed e he
  sessions := by rw [Table.put_mapValues, h.sessions]
  messages := h.messages

theorem Shows.getOrPut (h : Shows m s) (x : Session) {a : Account} (ha : x.account.plain = a) :
    ((m.getOrPut x).map StoreAnswer.session).outcome =
      (s.openSession x.updatedAt x.id a).outcome ∧
    Shows (m.getOrPut x).store (s.openSession x.updatedAt x.id a).store := by
  subst ha
  unfold MemoryStore.getOrPut PlainStore.openSession
  rw [h.get?]
  cases hget : Table.get? x.id m.sessions with
  | some found =>
    have hid : found.id = x.id := h.filed _ (Table.mem_of_get? hget)
    exact ⟨congrArg Outcome.ofSession (hid ▸ h.counted found), h⟩
  | none =>
    have hput := h.put x
    exact ⟨congrArg Outcome.ofSession (hput.counted x), hput⟩

theorem Shows.listSessions (h : Shows m s) :
    (m.listSessions.map StoreAnswer.sessions).outcome = s.listSessions.outcome := by
  -- Both lists are made from the table in one order.
  let order (a b : String × Session) : Bool := !a.2.updatedAt.before b.2.updatedAt
  have hmemory : (m.sessions.mergeSort order).map (·.2) = newestFirst (m.sessions.map (·.2)) :=
    List.map_mergeSort (f := Prod.snd) (s := fun a b : Session => !a.updatedAt.before b.updatedAt)
      fun _ _ _ _ => rfl
  have hplain : Table.mapValues Session.entry (m.sessions.mergeSort order) =
      s.sessions.mergeSort fun a b => !a.2.changedAt.before b.2.changedAt := by
    rw [← h.sessions]
    exact List.map_mergeSort (f := fun e : String × Session => (e.1, e.2.entry))
      (s := fun a b : String × Entry => !a.2.changedAt.before b.2.changedAt) fun _ _ _ _ => rfl
  have hreports : ((m.sessions.mergeSort order).map fun e => (m.counted e.2).plain) =
      (m.sessions.mergeSort order).map fun e => (s.report e.1 e.2.entry).plain := by
    refine List.map_congr_left fun e he => ?_
    rw [h.counted, h.filed e (List.mem_mergeSort.mp he)]
  simp only [MemoryStore.listSessions, PlainStore.listSessions, ← hmemory, ← hplain]
  simpa [StoreReply.outcome, StoreReply.map, StoreReply.quiet, Except.map, StoreAnswer.plain,
    Table.mapValues] using hreports

/-! ## Messages -/

/-- Where no two messages share an identifier, a message is replaced wherever it occurs. -/
theorem changeFirst?_eq {ms : List Message} (hids : (ms.map (·.id)).Nodup) (y : Message) :
    changeFirst? (fun m => if m.id == y.id then some y else none) ms =
      (ms.find? (·.id == y.id)).map fun _ => ms.map fun m => if m.id == y.id then y else m := by
  induction ms with
  | nil => rfl
  | cons m ms ih =>
    obtain ⟨hnotMem, hids⟩ := List.nodup_cons.mp hids
    by_cases hm : m.id = y.id
    · have hrest : ∀ m' ∈ ms, m'.id ≠ y.id := fun m' hm' heq =>
        hnotMem (List.mem_map.mpr ⟨m', hm', heq.trans hm.symm⟩)
      have hsame : (ms.map fun m => if m.id = y.id then y else m) = ms.map id :=
        List.map_congr_left fun m' hm' => if_neg (hrest m' hm')
      simp [changeFirst?, hm, hsame]
    · have hm' : ¬(m.id == y.id) = true := by simpa using hm
      have hfind := List.find?_cons_of_neg (l := ms) (p := fun m : Message => m.id == y.id) hm'
      simp only [changeFirst?, if_neg hm', ih hids, hfind, Option.map_map, List.map_cons]
      rfl

theorem Shows.find? (h : Shows m s) (id : String) :
    s.messages.find? (·.id == id) = (m.messages.find? (·.id == id)).map Message.plain := by
  rw [← h.messages, List.find?_map]
  rfl

theorem Shows.updateMessage (h : Shows m s) (hsound : s.Sound) (hy : s.Agrees y) :
    ((m.updateMessage now y).map fun _ => StoreAnswer.done).outcome = (s.updateMessage y).outcome ∧
    Shows (m.updateMessage now y).store (s.updateMessage y).store := by
  have hids : (m.messages.map (·.id)).Nodup := by
    have hids := hsound.ids
    rw [← h.messages, List.map_map] at hids
    exact hids
  -- A message that is handed in is the stored one but for what is changed.
  have hchange : ∀ old ∈ m.messages, old.id = y.id →
      ({ y with updatedAt := now } : Message).plain =
        { old.plain with parts := y.parts, model := y.model, provider := y.provider } := by
    intro old hold hid
    obtain ⟨hsession, hrole⟩ := hy old.plain (h.messages ▸ List.mem_map_of_mem hold) hid
    have hsession : old.sessionId = y.sessionId := hsession
    have hrole : old.role = y.role := hrole
    simp [Message.plain, hid, hsession, hrole]
  unfold MemoryStore.updateMessage PlainStore.updateMessage
  dsimp only
  rw [changeFirst?_eq hids { y with updatedAt := now }, h.find?]
  dsimp only
  cases hfind : m.messages.find? (·.id == y.id) with
  | none => exact ⟨rfl, h⟩
  | some found =>
    have hfound := hchange found (List.mem_of_find?_eq_some hfind)
      (beq_iff_eq.mp (List.find?_some hfind :))
    refine ⟨?_, h.filed, h.sessions, ?_⟩
    · exact congrArg (fun m : Message => (⟨.ok .done, [⟨.updated, m⟩]⟩ : Outcome)) hfound
    · rw [← h.messages]
      simp only [Option.map_some, List.map_map]
      refine List.map_congr_left fun old hold => ?_
      by_cases hid : old.id = y.id
      · simpa [hid, Message.plain] using hchange old hold hid
      · simp [hid, Message.plain]

theorem Shows.createMessage (h : Shows m s) (y : Message) :
    Shows { m with messages := m.messages ++ [y] } (s.createMessage y.plain).store where
  filed := h.filed
  sessions := h.sessions
  messages := by rw [List.map_append, h.messages]; rfl

theorem Shows.deleteMessages (h : Shows m s) (id : String) :
    ((m.deleteMessages id).map fun _ => StoreAnswer.done).outcome =
      (s.deleteMessages id).outcome ∧
    Shows (m.deleteMessages id).store (s.deleteMessages id).store := by
  refine ⟨?_, h.filed, h.sessions, ?_⟩
  · have hremoved := congrArg (fun ms : List Message =>
      (⟨.ok .done, ms.map (⟨.deleted, ·⟩)⟩ : Outcome)) (h.plain_messagesOf id)
    exact (outcome_deleted _ _).trans (hremoved.trans (outcome_deleted _ _).symm)
  · rw [PlainStore.deleteMessages, ← h.messages, List.filter_map]
    rfl

/-- **The store in memory answers as the plain store does.** -/
theorem implements : Implements answer Shows := by
  constructor
  intro now m s c h hsound hnow hfits
  cases c with
  | createSession id title =>
    obtain ⟨hget, hcount⟩ := hfits
    have hput := h.put (Session.fresh id title now)
    have haccount := Session.plain_fresh id title now
    have hentry : (Session.fresh id title now).entry = ⟨{ Account.new with title }, now⟩ := by
      rw [Session.entry, haccount]
      rfl
    simp only [PlainStore.answer, PlainStore.openSession, hget]
    rw [hentry] at hput
    exact ⟨congrArg Outcome.ofSession (PlainStore.report_fresh hcount title now), hput⟩
  | openTask id parent title => exact h.getOrPut _ (Session.plain_task id parent title now)
  | getSession id => exact h.getOrPut _ (Session.plain_fresh id _ now)
  | saveSession x =>
    have hput := h.put { x with updatedAt := now }
    exact ⟨congrArg Outcome.ofSession (hput.counted { x with updatedAt := now }), hput⟩
  | listSessions => exact ⟨h.listSessions, h⟩
  | createMessage id session draft => exact ⟨rfl, h.createMessage (draft.toMessage id session now)⟩
  | updateMessage y => exact h.updateMessage hsound hfits.1
  | getMessage id =>
    refine ⟨?_, h⟩
    simp only [answer, MemoryStore.getMessage, PlainStore.answer, PlainStore.getMessage, h.find?]
    cases m.messages.find? (·.id == id) <;> rfl
  | listMessages id =>
    exact ⟨congrArg (fun ms => (⟨.ok (.messages ms), []⟩ : Outcome)) (h.plain_messagesOf id), h⟩
  | deleteMessages id => exact h.deleteMessages id

end MemoryStore

end AgentDesk
