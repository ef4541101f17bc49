import AgentDesk.Proofs.Store.Lineage
/-!
# What writes leave alone

Saving a session is meant to change its title, its counters, its summary, its cost and the time of
its last change, and changing a message is meant to change its parts, its model, its provider and
that time; all other records stay as they are. A database keeps to this whatever it is handed. The
store in memory puts the record that it is handed in the place of the old one, so it keeps to this
only as long as that record agrees with the old one on everything else.

## Main definitions

* `OnlyChanges` — one record of a list has changed, and only in what may change.
* `Store.SaveKeeps`, `Store.UpdateKeeps` — a write has left alone what it is not meant to change.
* `Store.Displaces`, `Store.Misfiles` — a record that is handed in disagrees with the old one that
  it replaces.
-/

namespace AgentDesk

/-! ## Changes in a list -/

theorem changeFirst?_eq_none_iff {f : α → Option α} {as : List α} :
    changeFirst? f as = none ↔ ∀ a ∈ as, f a = none := by
  induction as with
  | nil => simp [changeFirst?]
  | cons a as ih =>
    cases ha : f a with
    | some b => simp [changeFirst?, ha]
    | none => simp [changeFirst?, ha, ih]

/-- Between two lists of records only those under one key have changed, and not in what `kept` reads
of them. No record has come, gone or moved. -/
def OnlyChanges {ρ φ : Type} (key : ρ → String) (kept : ρ → φ) (k : String)
    (before after : List ρ) : Prop :=
  List.Forall₂ (fun old new => kept new = kept old ∧ (key old ≠ k → new = old)) before after

namespace OnlyChanges

variable {ρ φ : Type} {key : ρ → String} {kept : ρ → φ} {k : String} {before after : List ρ}

theorem refl (key : ρ → String) (kept : ρ → φ) (k : String) (before : List ρ) :
    OnlyChanges key kept k before before :=
  List.forall₂_same.mpr fun _ _ => ⟨rfl, fun _ => rfl⟩

/-- Changing the records under a key, each in its place. -/
theorem of_map {change : ρ → ρ} (hkept : ∀ r, key r = k → kept (change r) = kept r) :
    OnlyChanges key kept k before (before.map fun r => if key r == k then change r else r) := by
  refine List.forall₂_map_right_iff.mpr (List.forall₂_same.mpr fun r _ => ?_)
  by_cases hr : key r = k
  · simp [hr, hkept r hr]
  · simp [hr]

theorem cons_iff {old new : ρ} :
    OnlyChanges key kept k (old :: before) (new :: after) ↔
      (kept new = kept old ∧ (key old ≠ k → new = old)) ∧ OnlyChanges key kept k before after :=
  List.forall₂_cons

/-- A value that is put in the place of another changes no more than it may if it holds what the
other one held of what is kept. -/
theorem put_iff {ν ψ : Type} (kept : ν → ψ) {t : Table String ν} {old : ν} (new : ν)
    (hold : Table.get? k t = some old) :
    OnlyChanges Prod.fst (fun e => (e.1, kept e.2)) k t (Table.put k new t) ↔
      kept new = kept old := by
  induction t with
  | nil => cases hold
  | cons e t ih =>
    by_cases he : e.1 = k
    · have hhere : e.2 = old := by simpa [Table.get?, he] using hold
      simp [Table.put, he, cons_iff, refl, hhere]
    · have hthere : Table.get? k t = some old := by simpa [Table.get?, he] using hold
      simpa [Table.put, he, cons_iff] using ih hthere

/-- A record that takes the place of the first one under a key changes no more than it may if it
holds what that one held of what is kept. -/
theorem changeFirst?_iff (new : ρ) {old : ρ} (hold : before.find? (key · == k) = some old)
    (hafter : changeFirst? (fun r => if key r == k then some new else none) before = some after) :
    OnlyChanges key kept k before after ↔ kept new = kept old := by
  induction before generalizing after with
  | nil => cases hold
  | cons r before ih =>
    by_cases hr : key r = k
    · obtain rfl : r = old := by simpa [hr] using hold
      obtain rfl : new :: before = after := by simpa [changeFirst?, hr] using hafter
      simp [cons_iff, refl, hr]
    · have hthere : before.find? (key · == k) = some old := by simpa [hr] using hold
      obtain ⟨rest, hrest, rfl⟩ : ∃ rest, changeFirst?
          (fun r => if key r == k then some new else none) before = some rest ∧
            r :: rest = after := by
        simpa [changeFirst?, hr] using hafter
      simp [cons_iff, ih hthere hrest]

end OnlyChanges

/-! ## What is not meant to change -/

/-- What saving a session is not meant to change of it. The number of its messages is counted anew
whenever it is read. -/
def Session.origin (s : Session) : String × Option String × Timestamp :=
  (s.id, s.parent, s.createdAt)

/-- What saving a session is not meant to change of its row. -/
def SessionRow.origin (r : SessionRow) : String × Option String × String :=
  (r.id, r.parent, r.createdAt)

/-- What changing a message is not meant to change of it. -/
def Message.origin (m : Message) : String × String × Role × Timestamp :=
  (m.id, m.sessionId, m.role, m.createdAt)

/-- What changing a message is not meant to change of its row. -/
def MessageRow.origin (r : MessageRow) : String × String × String × String :=
  (r.id, r.sessionId, r.role, r.createdAt)

namespace Store

/-- Saving a session has left alone what it is not meant to change. -/
def SaveKeeps (id : String) : Store → Store → Prop
  | .memory s, .memory s' =>
    OnlyChanges Prod.fst (fun e => (e.1, e.2.origin)) id s.sessions s'.sessions ∧
      s'.messages = s.messages
  | .database d, .database d' =>
    OnlyChanges SessionRow.id SessionRow.origin id d.sessions d'.sessions ∧ d'.messages = d.messages
  | _, _ => False

/-- Changing a message has left alone what it is not meant to change. -/
def UpdateKeeps (id : String) : Store → Store → Prop
  | .memory s, .memory s' =>
    OnlyChanges Message.id Message.origin id s.messages s'.messages ∧ s'.sessions = s.sessions
  | .database d, .database d' =>
    OnlyChanges MessageRow.id MessageRow.origin id d.messages d'.messages ∧ d'.sessions = d.sessions
  | _, _ => False

/-- A message is there. -/
def HasMessage (id : String) : Store → Prop
  | .memory s => ∃ m ∈ s.messages, m.id = id
  | .database d => ∃ r ∈ d.messages, r.id = id

/-- A session that is handed in takes the place of one with another parent or another time of
creation. -/
def Displaces (x : Session) : Store → Prop
  | .memory s => ∃ old, Table.get? x.id s.sessions = some old ∧ x.origin ≠ old.origin
  | .database _ => False

/-- A message that is handed in takes the place of one in another session, with another role or
another time of creation. -/
def Misfiles (y : Message) : Store → Prop
  | .memory s => ∃ old, s.messages.find? (·.id == y.id) = some old ∧ y.origin ≠ old.origin
  | .database _ => False

variable {now : Timestamp} {x : Session} {y : Message}

/-! ## The store in memory -/

theorem saveKeeps_memory_iff {s : MemoryStore} (h : (memory s).Has x.id) :
    SaveKeeps x.id (memory s) (.memory (s.saveSession now x).store) ↔ ¬(memory s).Displaces x := by
  obtain ⟨old, hold⟩ : ∃ old, Table.get? x.id s.sessions = some old :=
    Option.isSome_iff_exists.mp (by simpa [Has, link?] using h)
  have hput : OnlyChanges Prod.fst (fun e : String × Session => (e.1, e.2.origin)) x.id s.sessions
      (Table.put x.id { x with updatedAt := now } s.sessions) ↔ x.origin = old.origin :=
    OnlyChanges.put_iff Session.origin { x with updatedAt := now } hold
  simp [SaveKeeps, MemoryStore.saveSession, StoreReply.quiet, Displaces, hput, hold]

theorem updateMessage_memory_of_missing {s : MemoryStore} (h : ¬(memory s).HasMessage y.id) :
    s.updateMessage now y = .quiet s (.error (.messageNotFound y.id)) := by
  have hnone : changeFirst? (fun m : Message =>
      if m.id == y.id then some { y with updatedAt := now } else none) s.messages = none := by
    refine changeFirst?_eq_none_iff.mpr fun m hm => ?_
    have hid : m.id ≠ y.id := fun hid => h ⟨m, hm, hid⟩
    simp [hid]
  simp only [MemoryStore.updateMessage, hnone]

theorem updateKeeps_memory_iff {s : MemoryStore} (h : (memory s).HasMessage y.id) :
    UpdateKeeps y.id (memory s) (.memory (s.updateMessage now y).store) ↔
      ¬(memory s).Misfiles y := by
  obtain ⟨m, hm, hid⟩ := h
  obtain ⟨old, hold⟩ : ∃ old, s.messages.find? (·.id == y.id) = some old :=
    Option.isSome_iff_exists.mp (List.find?_isSome.mpr ⟨m, hm, by simp [hid]⟩)
  obtain ⟨after, hafter⟩ : ∃ after, changeFirst? (fun m : Message =>
      if m.id == y.id then some { y with updatedAt := now } else none) s.messages = some after := by
    refine Option.ne_none_iff_exists'.mp fun hnone => ?_
    simpa [hid] using changeFirst?_eq_none_iff.mp hnone m hm
  have hchange : OnlyChanges Message.id Message.origin y.id s.messages after ↔
      y.origin = old.origin :=
    OnlyChanges.changeFirst?_iff { y with updatedAt := now } hold hafter
  simp only [UpdateKeeps, MemoryStore.updateMessage, hafter, hchange]
  simp [Misfiles, hold]

/-! ## A database -/

theorem saveKeeps_database {d : Database} (h : (database d).Has x.id) :
    SaveKeeps x.id (database d) (.database (d.saveSession now x).store) := by
  unfold Database.saveSession
  cases hrow : SessionRow.ofSession? { x with updatedAt := now } with
  | none => exact ⟨.refl .., rfl⟩
  | some row =>
    obtain ⟨cost, -, rfl⟩ := Option.map_eq_some_iff.mp hrow
    have hany : d.sessions.any (·.id == x.id) = true := by
      simpa [Has, link?, List.find?_isSome] using h
    simp only [StoreReply.quiet, SaveKeeps, Database.upsertSession, hany, if_true, and_true]
    refine OnlyChanges.of_map fun r hr => ?_
    simp [SessionRow.origin, hr]

theorem updateMessage_database_of_missing {d : Database} (h : ¬(database d).HasMessage y.id) :
    d.updateMessage now y = .quiet d (.error (.messageNotFound y.id)) := by
  have hany : d.messages.any (·.id == y.id) = false := by
    refine List.any_eq_false.mpr fun r hr hid => h ⟨r, hr, by simpa using hid⟩
  simp [Database.updateMessage, hany]

theorem updateKeeps_database {d : Database} (h : (database d).HasMessage y.id) :
    UpdateKeeps y.id (database d) (.database (d.updateMessage now y).store) := by
  obtain ⟨r, hr, hid⟩ := h
  have hany : d.messages.any (·.id == y.id) = true := List.any_eq_true.mpr ⟨r, hr, by simp [hid]⟩
  simp only [Database.updateMessage, hany, if_true, UpdateKeeps, and_true]
  exact OnlyChanges.of_map fun _ _ => rfl

/-! ## Both stores -/

/-- **A write keeps to its records unless the store in memory is handed a record that disagrees with
the old one** on what the write is not meant to change. A message that is missing is not changed,
and nothing else is. -/
theorem writes_keep_iff (store : Store) (now : Timestamp) (x : Session) (y : Message) :
    (store.Has x.id →
      (SaveKeeps x.id store (store.saveSession now x).store ↔ ¬store.Displaces x)) ∧
    (store.HasMessage y.id →
      (UpdateKeeps y.id store (store.updateMessage now y).store ↔ ¬store.Misfiles y)) ∧
    (¬store.HasMessage y.id → (store.updateMessage now y).store = store ∧
      (store.updateMessage now y).result = .error (.messageNotFound y.id)) := by
  cases store with
  | memory s =>
    refine ⟨saveKeeps_memory_iff, updateKeeps_memory_iff, fun h => ?_⟩
    simp [updateMessage, updateMessage_memory_of_missing h, StoreReply.lift, StoreReply.quiet]
  | database d =>
    refine ⟨fun h => iff_of_true (saveKeeps_database h) id,
      fun h => iff_of_true (updateKeeps_database h) id, fun h => ?_⟩
    simp [updateMessage, updateMessage_database_of_missing h, StoreReply.lift, StoreReply.quiet]

/-- A session without a parent and a message of its user, in memory. -/
def sampleMemory : MemoryStore :=
  let noon : Timestamp := ⟨2025, 6, 1, 12, 0, 0, 0⟩
  ⟨[("s", .fresh "s" "Draft" noon)], [⟨"m", "s", .user, [.text "Hello"], none, none, noon, noon⟩]⟩

/-- The same session and message in a database. -/
def sampleDatabase : Database :=
  let noon := "2025-06-01T12:00:00+00:00"
  ⟨[⟨"s", none, "Draft", 0, 0, none, 0, noon, noon⟩],
    [⟨"m", "s", "user", "[\x7b\"type\":\"text\",\"text\":\"Hello\"\x7d]", none, none, noon, noon⟩]⟩

/-- A session that comes with a parent and a message that comes with another session are kept to by
the database, and written as they are by the store in memory; a missing message is written by
neither. -/
theorem exists_write_not_kept : ∃ (now : Timestamp) (x : Session) (y ghost : Message),
    ((memory sampleMemory).Has x.id ∧ (memory sampleMemory).HasMessage y.id ∧
      ¬SaveKeeps x.id (memory sampleMemory) ((memory sampleMemory).saveSession now x).store ∧
      ¬UpdateKeeps y.id (memory sampleMemory) ((memory sampleMemory).updateMessage now y).store) ∧
    ((database sampleDatabase).Has x.id ∧ (database sampleDatabase).HasMessage y.id ∧
      SaveKeeps x.id (database sampleDatabase) ((database sampleDatabase).saveSession now x).store ∧
      UpdateKeeps y.id (database sampleDatabase)
        ((database sampleDatabase).updateMessage now y).store) ∧
    ¬(memory sampleMemory).HasMessage ghost.id ∧
      ((memory sampleMemory).updateMessage now ghost).store = memory sampleMemory := by
  let later : Timestamp := ⟨2025, 6, 1, 13, 0, 0, 0⟩
  let x : Session := .task "s" "p" "Plan" later
  let y : Message := ⟨"m", "t", .user, [], none, none, later, later⟩
  let ghost : Message := ⟨"g", "s", .user, [], none, none, later, later⟩
  have hx : (memory sampleMemory).Has x.id := by rfl
  have hy : (memory sampleMemory).HasMessage y.id := ⟨_, List.mem_singleton.mpr rfl, rfl⟩
  have hx' : (database sampleDatabase).Has x.id := by rfl
  have hy' : (database sampleDatabase).HasMessage y.id := ⟨_, List.mem_singleton.mpr rfl, rfl⟩
  have hghost : ¬(memory sampleMemory).HasMessage ghost.id := by
    simp [HasMessage, sampleMemory, ghost]
  have hdisplaces : (memory sampleMemory).Displaces x := ⟨_, rfl, by decide⟩
  have hmisfiles : (memory sampleMemory).Misfiles y := ⟨_, rfl, by decide⟩
  refine ⟨later, x, y, ghost, ⟨hx, hy, fun hkeeps => ?_, fun hkeeps => ?_⟩,
    ⟨hx', hy', ?_, ?_⟩, hghost, ?_⟩
  · exact ((writes_keep_iff _ later x y).1 hx).mp hkeeps hdisplaces
  · exact ((writes_keep_iff _ later x y).2.1 hy).mp hkeeps hmisfiles
  · exact ((writes_keep_iff _ later x y).1 hx').mpr id
  · exact ((writes_keep_iff _ later x y).2.1 hy').mpr id
  · exact ((writes_keep_iff _ later x ghost).2.2 hghost).1

end Store

end AgentDesk
