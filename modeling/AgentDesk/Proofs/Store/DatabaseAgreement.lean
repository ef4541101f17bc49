import AgentDesk.Proofs.Store.Clients
/-!
# A database and the plain store

The rows of the sessions show the accounts of the plain store and the texts of their times of
change, and the rows of the messages its messages. The texts are in the order of the times, the
columns give back what was put into them, and every statement does to the rows what the plain store
does to its tables. So every call that fits is answered alike.

## Main definitions

* `Database.Shows` — what a database keeps is the content of the plain store.
-/

namespace AgentDesk

/-! ## Rows -/

/-- What a row of a session shows. -/
def SessionRow.cells (r : SessionRow) : Account × String := (r.account.plain, r.updatedAt)

/-- What the row of a session has to show. -/
def Entry.cells (e : Entry) : Account × String := (e.account.plain, e.changedAt.writeSortable)

/-- A row of a message, its times aside. -/
def MessageRow.untimed (r : MessageRow) : MessageRow := { r with createdAt := "", updatedAt := "" }

/-- The row of a message, its times aside. -/
def Message.row (m : Message) : MessageRow := (MessageRow.ofMessage m).untimed

variable {now : Timestamp} {x : Session} {y m : Message} {r : MessageRow} {id : String}

/-- The row of a session that can be counted. -/
theorem SessionRow.ofSession?_countable (h : x.account.Countable) : ∃ row,
    SessionRow.ofSession? x = some row ∧ row.id = x.id ∧ row.account = x.account.plain ∧
      row.updatedAt = x.updatedAt.writeSortable := by
  have hcost : realColumn? x.cost = some (unsigned x.cost) := by
    have hnumber : x.cost.isNaN = false := h.cost
    simp only [realColumn?, hnumber, Bool.false_eq_true, if_false, unsigned]
    split <;> rfl
  have hprompt : counterOf (signedWord x.promptTokens) = x.promptTokens :=
    counterOf_signedWord h.prompt
  have hcompletion : counterOf (signedWord x.completionTokens) = x.completionTokens :=
    counterOf_signedWord h.completion
  refine ⟨_, by rw [SessionRow.ofSession?, hcost]; rfl, rfl, ?_, rfl⟩
  simp only [SessionRow.account, hprompt, hcompletion]
  rfl

/-- A message is read back from its row, whatever the times in the row are. -/
theorem MessageRow.toMessage?_of_untimed (hrow : r.untimed = m.row)
    (hparts : ∀ p ∈ m.parts, p.Timed)
    (now : Timestamp) : ∃ m', r.toMessage? now = .ok m' ∧ m'.plain = m.plain := by
  obtain ⟨id, sessionId, role, parts, model, provider, createdAt, updatedAt⟩ := r
  simp only [MessageRow.untimed, Message.row, MessageRow.ofMessage, MessageRow.mk.injEq] at hrow
  obtain ⟨rfl, rfl, rfl, rfl, rfl, rfl, -, -⟩ := hrow
  have hrole : Role.ofName? m.role.name = some m.role := by cases m.role <;> rfl
  simp only [MessageRow.toMessage?, MessageRow.parts?, parse?_partsToJson hparts, hrole]
  exact ⟨_, rfl, rfl⟩

namespace Database

/-- The rows of the sessions as a table. -/
def table (d : Database) : Table String (Account × String) :=
  d.sessions.map fun r => (r.id, r.cells)

/-- What a database keeps is the content of the plain store. -/
structure Shows (d : Database) (s : PlainStore) : Prop where
  sessions : d.table = Table.mapValues Entry.cells s.sessions
  messages : d.messages.map MessageRow.untimed = s.messages.map Message.row

variable {d : Database} {s : PlainStore} {e : Entry} {row : SessionRow}

theorem shows_empty : Shows empty .empty := ⟨rfl, rfl⟩

/-! ## Sessions -/

theorem get?_table (d : Database) (id : String) :
    Table.get? id d.table = (d.sessions.find? (·.id == id)).map SessionRow.cells := by
  rw [Table.get?_eq_find?, table, List.find?_map, Option.map_map]
  rfl

theorem any_iff_get? (d : Database) (id : String) :
    d.sessions.any (·.id == id) = (Table.get? id d.table).isSome := by
  rw [get?_table, Option.isSome_map, List.isSome_find?]

theorem Shows.get? (h : Shows d s) (id : String) :
    Table.get? id d.table = (Table.get? id s.sessions).map Entry.cells := by
  rw [h.sessions, Table.get?_mapValues]

/-- The rows of the messages of a session are those of the plain store. -/
theorem Shows.rowsOf (h : Shows d s) (id : String) :
    (d.rowsOf id).map MessageRow.untimed = (s.messagesOf id).map Message.row := by
  have hrows := congrArg (List.filter (·.sessionId == id)) h.messages
  rw [List.filter_map, List.filter_map] at hrows
  exact hrows

theorem Shows.countMessages (h : Shows d s) (id : String) :
    d.countMessages id = (s.messagesOf id).length := by
  have hlength := congrArg List.length (h.rowsOf id)
  rwa [List.length_map, List.length_map] at hlength

/-- A session is reported alike. -/
theorem Shows.selectSession (h : Shows d s) (now : Timestamp)
    (hget : Table.get? id s.sessions = some e) :
    ∃ x, d.selectSession now id = .ok x ∧ x.plain = (s.report id e).plain := by
  have hrow := h.get? id
  rw [hget, get?_table, Option.map_some, Option.map_eq_some_iff] at hrow
  obtain ⟨row, hfind, hcells⟩ := hrow
  have hid : row.id = id := beq_iff_eq.mp (List.find?_some hfind :)
  have haccount : row.account.plain = e.account.plain := congrArg Prod.fst hcells
  refine ⟨d.sessionOf now row, by rw [Database.selectSession, hfind], ?_⟩
  rw [PlainStore.report, Account.plain_session, ← haccount, ← h.countMessages, ← hid]
  rfl

/-- A row that is inserted under a name of its own is a session that is kept. -/
theorem Shows.insertSession (h : Shows d s) (hnone : Table.get? row.id s.sessions = none)
    (hcells : row.cells = e.cells) :
    Shows (d.insertSession row) { s with sessions := Table.put row.id e s.sessions } := by
  have hget : Table.get? row.id d.table = none := by rw [h.get?, hnone, Option.map_none]
  have hnew : d.insertSession row = { d with sessions := d.sessions ++ [row] } := by
    rw [Database.insertSession, any_iff_get?, hget]
    rfl
  refine ⟨?_, hnew ▸ h.messages⟩
  rw [hnew, Table.put_mapValues, ← h.sessions, Table.put_of_get?_none hget, ← hcells, table,
    List.map_append]
  rfl

/-- A row is inserted only if its name is not taken. -/
theorem insertSession_of_get? (h : (Table.get? row.id d.table).isSome) :
    d.insertSession row = d := by
  rw [Database.insertSession, any_iff_get?, h, if_pos rfl]

theorem Shows.getOrInsert (h : Shows d s) (hx : x.account.Countable) {a : Account}
    (ha : x.account.plain = a) :
    ((d.getOrInsert now x).map StoreAnswer.session).outcome =
      (s.openSession x.updatedAt x.id a).outcome ∧
    Shows (d.getOrInsert now x).store (s.openSession x.updatedAt x.id a).store := by
  subst ha
  obtain ⟨row, hrow, hid, haccount, hupdated⟩ := SessionRow.ofSession?_countable hx
  unfold Database.getOrInsert PlainStore.openSession
  rw [hrow]
  dsimp only
  cases hget : Table.get? x.id s.sessions with
  | some e =>
    have hsame : d.insertSession row = d := by
      refine insertSession_of_get? ?_
      rw [hid, h.get?, hget]
      rfl
    obtain ⟨found, hselect, hreport⟩ := h.selectSession now hget
    rw [hsame, hselect]
    exact ⟨congrArg Outcome.ofSession hreport, h⟩
  | none =>
    have hcells : row.cells = (⟨x.account.plain, x.updatedAt⟩ : Entry).cells := by
      rw [SessionRow.cells, haccount, hupdated]
      rfl
    have hput := h.insertSession (hid ▸ hget) hcells
    rw [hid] at hput
    obtain ⟨found, hselect, hreport⟩ := hput.selectSession now
      (Table.get?_put_self x.id ..)
    rw [hselect]
    exact ⟨congrArg Outcome.ofSession hreport, hput⟩

/-- A row that is changed keeps its parent, which is that of the row that is put in its place. -/
theorem Shows.upsertSession (h : Shows d s) (hkeys : s.sessions.keys.Nodup) {old : Entry}
    (hold : Table.get? row.id s.sessions = some old) (hparent : old.account.parent = row.parent)
    (hcells : row.cells = e.cells) :
    Shows (d.upsertSession row) { s with sessions := Table.put row.id e s.sessions } := by
  have hget : Table.get? row.id d.table = some old.cells := by rw [h.get?, hold, Option.map_some]
  have htable : d.table.keys = s.sessions.keys := by
    rw [h.sessions, Table.keys, Table.mapValues, List.map_map]
    rfl
  have hany : d.sessions.any (·.id == row.id) = true := by rw [any_iff_get?, hget]; rfl
  -- The row with the name shows the old entry, so that its parent is the same.
  have hkept : ∀ r ∈ d.sessions, r.id = row.id → r.parent = row.parent := by
    intro r hr hid
    have hmem : (r.id, r.cells) ∈ d.table := List.mem_map_of_mem hr
    have hcell := Table.get?_of_mem (htable ▸ hkeys) hmem
    rw [hid, hget] at hcell
    have hshown := congrArg (fun c : Account × String => c.1.parent) (Option.some.inj hcell)
    exact hshown.symm.trans hparent
  have hmap : d.table.map (fun e => if e.1 == row.id then (row.id, row.cells) else e) =
      (d.upsertSession row).table := by
    unfold Database.upsertSession
    rw [if_pos hany, table, table, List.map_map, List.map_map]
    refine List.map_congr_left fun r hr => ?_
    by_cases hid : r.id = row.id
    · have hr := hkept r hr hid
      simp [hid, SessionRow.cells, SessionRow.account, hr]
    · simp [hid]
  refine ⟨?_, ?_⟩
  · rw [← hmap, Table.put_mapValues, ← h.sessions, ← hcells,
      Table.put_of_get?_some (htable ▸ hkeys) (by rw [hget]; rfl)]
  · unfold Database.upsertSession
    rw [if_pos hany]
    exact h.messages

theorem Shows.saveSession (h : Shows d s) (hkeys : s.sessions.keys.Nodup)
    (hx : x.account.Countable) (hknows : s.Knows x) :
    ((d.saveSession now x).map StoreAnswer.session).outcome =
      (s.keep now x.id x.account.plain).outcome ∧
    Shows (d.saveSession now x).store (s.keep now x.id x.account.plain).store := by
  obtain ⟨row, hrow, hid, haccount, hupdated⟩ :=
    SessionRow.ofSession?_countable (x := { x with updatedAt := now }) hx
  obtain ⟨old, hold, hparent⟩ := hknows
  have hid : row.id = x.id := hid
  have hrowParent : row.parent = x.parent := congrArg Account.parent haccount
  have hcells : row.cells = (⟨x.account.plain, now⟩ : Entry).cells := by
    rw [SessionRow.cells, haccount, hupdated]
    rfl
  have hput := h.upsertSession hkeys (hid ▸ hold) (hparent.trans hrowParent.symm) hcells
  rw [hid] at hput
  obtain ⟨found, hselect, hreport⟩ := hput.selectSession now (Table.get?_put_self x.id ..)
  unfold Database.saveSession
  rw [hrow]
  dsimp only
  rw [hselect]
  exact ⟨congrArg Outcome.ofSession hreport, hput⟩

theorem Shows.listSessions (h : Shows d s)
    (htimes : ∀ e ∈ s.sessions, e.2.changedAt.FourDigit) :
    ((d.listSessions now).map StoreAnswer.sessions).outcome = s.listSessions.outcome := by
  -- Rows and entries are sorted by what a row shows.
  let later (a b : String × Account × String) : Bool := b.2.2 ≤ a.2.2
  have hrows : (d.sessions.mergeSort fun a b => b.updatedAt ≤ a.updatedAt).map
      (fun r => (r.id, r.cells)) = d.table.mergeSort later :=
    List.map_mergeSort fun _ _ _ _ => rfl
  have hentries : (s.sessions.mergeSort fun a b => !a.2.changedAt.before b.2.changedAt).map
      (fun e => (e.1, e.2.cells)) = (Table.mapValues Entry.cells s.sessions).mergeSort later := by
    refine List.map_mergeSort fun a ha b hb => ?_
    have horder := Timestamp.writeSortable_lt_iff (htimes a ha) (htimes b hb)
    rw [Bool.eq_iff_iff, Bool.not_eq_true', ← Bool.not_eq_true, ← horder, String.not_lt]
    exact decide_eq_true_iff.symm
  -- What is reported of a session depends on what its row shows.
  let report (c : String × Account × String) : Session :=
    c.2.1.session c.1 (s.messagesOf c.1).length
  have hsessions : ∀ r, (d.sessionOf now r).plain = report (r.id, r.cells) := by
    intro r
    have hcount := h.countMessages r.id
    simp only [report, ← hcount]
    rfl
  have hreports : ((d.sessions.mergeSort fun a b => b.updatedAt ≤ a.updatedAt).map
      (d.sessionOf now)).map Session.plain =
      ((s.sessions.mergeSort fun a b => !a.2.changedAt.before b.2.changedAt).map
        fun e => s.report e.1 e.2).map Session.plain := by
    have hsorted := congrArg (List.map report) (hrows.trans (h.sessions ▸ hentries.symm))
    rw [List.map_map, List.map_map] at hsorted ⊢
    simp only [Function.comp_def, hsessions]
    exact hsorted
  exact congrArg (fun ss => (⟨.ok (.sessions ss), []⟩ : Outcome)) hreports

/-! ## Messages -/

theorem Shows.find? (h : Shows d s) (id : String) :
    (d.messages.find? (·.id == id)).map MessageRow.untimed =
      (s.messages.find? (·.id == id)).map Message.row := by
  have hfind := congrArg (List.find? (·.id == id)) h.messages
  rw [List.find?_map, List.find?_map] at hfind
  exact hfind

theorem Shows.getMessage (h : Shows d s) (hsound : s.Sound) (id : String) :
    ((d.getMessage now id).map StoreAnswer.message).outcome = (s.getMessage id).outcome := by
  have hfind := h.find? id
  unfold Database.getMessage PlainStore.getMessage
  cases hm : s.messages.find? (·.id == id) with
  | none =>
    rw [hm, Option.map_none, Option.map_eq_none_iff] at hfind
    rw [hfind]
    rfl
  | some m =>
    rw [hm, Option.map_some, Option.map_eq_some_iff] at hfind
    obtain ⟨r, hr, hrow⟩ := hfind
    obtain ⟨m', hread, hplain⟩ :=
      MessageRow.toMessage?_of_untimed hrow (hsound.timed m (List.mem_of_find?_eq_some hm)) now
    rw [hr]
    dsimp only
    rw [hread]
    exact congrArg (fun m => (⟨.ok (.message m), []⟩ : Outcome)) hplain

/-- Messages are read back from their rows. -/
theorem mapM_toMessage? {rows : List MessageRow} {ms : List Message}
    (hrows : rows.map MessageRow.untimed = ms.map Message.row)
    (htimed : ∀ m ∈ ms, ∀ p ∈ m.parts, p.Timed) (now : Timestamp) :
    ∃ ms', rows.mapM (·.toMessage? now) = .ok ms' ∧
      ms'.map Message.plain = ms.map Message.plain := by
  induction rows generalizing ms with
  | nil =>
    obtain rfl : ms = [] := List.map_eq_nil_iff.mp hrows.symm
    exact ⟨[], rfl, rfl⟩
  | cons r rows ih =>
    cases ms with
    | nil => cases hrows
    | cons m ms =>
      obtain ⟨hr, hrows⟩ := List.cons.inj hrows
      obtain ⟨hm, hms⟩ := List.forall_mem_cons.mp htimed
      obtain ⟨m', hread, hplain⟩ := MessageRow.toMessage?_of_untimed hr hm now
      obtain ⟨ms', hreads, hplains⟩ := ih hrows hms
      refine ⟨m' :: ms', ?_, by rw [List.map_cons, List.map_cons, hplain, hplains]⟩
      rw [List.mapM_cons, hread, hreads]
      rfl

/-- The messages of a session are read back. -/
theorem Shows.messagesOf (h : Shows d s) (hsound : s.Sound) (now : Timestamp) (id : String) :
    ∃ ms, d.messagesOf now id = .ok ms ∧
      ms.map Message.plain = (s.messagesOf id).map Message.plain :=
  mapM_toMessage? (h.rowsOf id) (fun m hm => hsound.timed m (List.mem_of_mem_filter hm)) now

theorem Shows.deleteMessages (h : Shows d s) (hsound : s.Sound) (id : String) :
    ((d.deleteMessages now id).map fun _ => StoreAnswer.done).outcome =
      (s.deleteMessages id).outcome ∧
    Shows (d.deleteMessages now id).store (s.deleteMessages id).store := by
  obtain ⟨removed, hread, hplain⟩ := h.messagesOf hsound now id
  unfold Database.deleteMessages PlainStore.deleteMessages
  rw [hread]
  refine ⟨?_, h.sessions, ?_⟩
  · have hremoved := congrArg (fun ms : List Message =>
      (⟨.ok .done, ms.map (⟨.deleted, ·⟩)⟩ : Outcome)) hplain
    exact (outcome_deleted _ _).trans (hremoved.trans (outcome_deleted _ _).symm)
  · have hrows := congrArg (List.filter fun r => !(r.sessionId == id)) h.messages
    rw [List.filter_map, List.filter_map] at hrows
    exact hrows

theorem Shows.createMessage (h : Shows d s) (m : Message) :
    Shows { d with messages := d.messages ++ [MessageRow.ofMessage m] }
      (s.createMessage m.plain).store where
  sessions := h.sessions
  messages := by
    have hrow : (MessageRow.ofMessage m).untimed = m.plain.row := by
      simp only [Message.row, MessageRow.untimed, MessageRow.ofMessage, Message.plain]
    simp only [PlainStore.createMessage, List.map_append, h.messages, List.map_cons, List.map_nil,
      hrow]

/-- What an update does to a row. -/
def changeRow (y : Message) (r : MessageRow) : MessageRow :=
  if r.id == y.id then
    { r with parts := (MessageRow.ofMessage y).parts, model := y.model, provider := y.provider }
  else r

theorem Shows.updateMessage (h : Shows d s) (hy : s.Agrees y) :
    ((d.updateMessage now y).map fun _ => StoreAnswer.done).outcome = (s.updateMessage y).outcome ∧
    Shows (d.updateMessage now y).store (s.updateMessage y).store := by
  have hfind := h.find? y.id
  have hany : d.messages.any (·.id == y.id) = (s.messages.find? (·.id == y.id)).isSome := by
    have hsome := congrArg Option.isSome hfind
    rwa [Option.isSome_map, Option.isSome_map, List.isSome_find?] at hsome
  unfold Database.updateMessage PlainStore.updateMessage
  dsimp only
  rw [hany]
  cases hm : s.messages.find? (·.id == y.id) with
  | none => exact ⟨rfl, h⟩
  | some found =>
    have hid : found.id = y.id := beq_iff_eq.mp (List.find?_some hm :)
    obtain ⟨hsession, hrole⟩ := hy found (List.mem_of_find?_eq_some hm) hid
    refine ⟨?_, h.sessions, ?_⟩
    · have hplain : y.plain =
          ({ found with
            parts := y.parts, model := y.model, provider := y.provider } : Message).plain := by
        simp [Message.plain, hid, hsession, hrole]
      exact congrArg (fun m : Message => (⟨.ok .done, [⟨.updated, m⟩]⟩ : Outcome)) hplain
    · have hrows := congrArg (List.map (changeRow y)) h.messages
      rw [List.map_map, List.map_map] at hrows
      simp only [Option.isSome_some, if_true, List.map_map]
      -- The change does not depend on the times, and a row changes as its message does.
      refine (List.map_congr_left fun r _ => ?_).trans (hrows.trans
        (List.map_congr_left fun m _ => ?_))
      · by_cases hr : r.id = y.id
        · simp [hr, changeRow, MessageRow.untimed, MessageRow.ofMessage]
        · simp [hr, changeRow, MessageRow.untimed]
      · by_cases hm : m.id = y.id
        · simp [hm, changeRow, Message.row, MessageRow.untimed, MessageRow.ofMessage]
        · simp [hm, changeRow, Message.row, MessageRow.untimed, MessageRow.ofMessage]

theorem Shows.createSession (h : Shows d s) (title : String)
    (hfits : s.Fits (.createSession id title)) :
    ((d.createSession now id title).map StoreAnswer.session).outcome =
      (s.openSession now id { Account.new with title }).outcome ∧
    Shows (d.createSession now id title).store
      (s.openSession now id { Account.new with title }).store := by
  obtain ⟨hget, hcount⟩ := hfits
  have hnew : (Session.fresh id title now).account.Countable := PlainStore.countable_new title none
  obtain ⟨row, hrow, hid, haccount, hupdated⟩ := SessionRow.ofSession?_countable hnew
  have hid : row.id = id := hid
  have hcells : row.cells = (⟨{ Account.new with title }, now⟩ : Entry).cells := by
    rw [SessionRow.cells, haccount, hupdated, Session.plain_fresh]
    rfl
  have hput := h.insertSession (hid ▸ hget) hcells
  rw [hid] at hput
  simp only [Database.createSession, PlainStore.openSession, hget, hrow]
  exact ⟨congrArg Outcome.ofSession (PlainStore.report_fresh hcount title now), hput⟩

/-- **A database answers as the plain store does.** -/
theorem implements : Implements answer Shows := by
  constructor
  intro now d s c h hsound hnow hfits
  cases c with
  | createSession id title => exact h.createSession title hfits
  | openTask id parent title =>
    exact h.getOrInsert (x := Session.task id parent title now)
      (PlainStore.countable_new title (some parent))
      (Session.plain_task id parent title now)
  | getSession id =>
    exact h.getOrInsert (x := Session.fresh id Session.defaultTitle now)
      (PlainStore.countable_new _ none) (Session.plain_fresh id _ now)
  | saveSession x => exact h.saveSession hsound.keys hfits.2 hfits.1
  | listSessions => exact ⟨h.listSessions hsound.times, h⟩
  | createMessage id session draft =>
    exact ⟨rfl, h.createMessage (draft.toMessage id session now)⟩
  | updateMessage y => exact h.updateMessage hfits.1
  | getMessage id => exact ⟨h.getMessage hsound id, h⟩
  | listMessages id =>
    obtain ⟨ms, hread, hplain⟩ := h.messagesOf hsound now id
    refine ⟨?_, h⟩
    simp only [answer, Database.listMessages, hread]
    exact congrArg (fun ms => (⟨.ok (.messages ms), []⟩ : Outcome)) hplain
  | deleteMessages id => exact h.deleteMessages hsound id

end Database

end AgentDesk
