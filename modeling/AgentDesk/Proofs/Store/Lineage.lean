import AgentDesk.Proofs.Store.Accounts
import Mathlib.Data.ENat.Lattice
import Mathlib.Order.CompletePartialOrder
/-!
# The parents of sessions

A session that was opened for a delegated task has a parent, which may have a parent in turn. Where
all parents are there, a new session below one of them changes the ancestors of no other session: it
is nobody's ancestor yet. So the number of ancestors stays bounded as long as new sessions are
opened only below sessions that have fewer than the bound, and the parents of all others are kept.

## Main definitions

* `Store.parentOf?`, `Store.ancestor?` — the parent of a session, and so on.
* `Store.depth` — how many ancestors a session has, which may be without end.
* `Store.Rooted` — all parents are there, and no session has more ancestors than a bound.
* `StoreCall.Keeps` — a call keeps the parents of sessions.
* `Store.Extends` — sessions keep their parents.
-/

namespace AgentDesk

namespace Store

variable {s s' : Store} {id p : String} {m n : Nat}

/-- The parent of a session that is there, or none if it has none. -/
def link? (s : Store) (id : String) : Option (Option String) :=
  match s with
  | .memory m => (Table.get? id m.sessions).map (·.parent)
  | .database d => (d.sessions.find? (·.id == id)).map (·.parent)

/-- A session is there. -/
def Has (s : Store) (id : String) : Prop := (s.link? id).isSome

/-- The parent of a session. -/
def parentOf? (s : Store) (id : String) : Option String := (s.link? id).join

/-- The parent of the parent, and so on, of a session. -/
def ancestor? (s : Store) : Nat → String → Option String
  | 0, id => some id
  | n + 1, id => (s.parentOf? id).bind (s.ancestor? n)

/-- The number of ancestors of a session. -/
noncomputable def depth (s : Store) (id : String) : ℕ∞ :=
  ⨆ (n : ℕ) (_ : (s.ancestor? n id).isSome), (n : ℕ∞)

theorem parentOf?_eq (s : Store) (id : String) : s.parentOf? id = (s.account id).parent := by
  cases s with
  | memory m =>
    simp only [parentOf?, link?, account]
    cases Table.get? id m.sessions <;> rfl
  | database d =>
    simp only [parentOf?, link?, account]
    cases d.sessions.find? (·.id == id) <;> rfl

/-- A session with a parent is there. -/
theorem Has.of_parentOf? (h : s.parentOf? id = some p) : s.Has id := by
  unfold parentOf? at h
  unfold Has
  cases hlink : s.link? id with
  | none =>
    rw [hlink] at h
    cases h
  | some q => rfl

/-! ## Ancestors -/

theorem ancestor?_add (m n : Nat) (id : String) :
    s.ancestor? (m + n) id = (s.ancestor? m id).bind (s.ancestor? n) := by
  induction m generalizing id with
  | zero => simp [ancestor?]
  | succ m ih =>
    rw [Nat.succ_add, ancestor?, ancestor?, Option.bind_assoc]
    exact congrArg _ (funext fun q => ih q)

theorem ancestor?_succ (n : Nat) (id : String) :
    s.ancestor? (n + 1) id = (s.ancestor? n id).bind s.parentOf? := by
  have hone : s.ancestor? 1 = s.parentOf? := by
    funext q
    cases hq : s.parentOf? q <;> simp [ancestor?, hq]
  rw [ancestor?_add, hone]

/-- Ancestors are a matter of parents only. -/
theorem ancestor?_congr (h : ∀ id, s'.parentOf? id = s.parentOf? id) (n : Nat) (id : String) :
    s'.ancestor? n id = s.ancestor? n id := by
  induction n generalizing id with
  | zero => rfl
  | succ n ih =>
    rw [ancestor?, ancestor?, h]
    exact congrArg _ (funext ih)

/-- Behind the last ancestor there is none. -/
theorem ancestor?_eq_none_of_le (h : s.ancestor? m id = none) (hle : m ≤ n) :
    s.ancestor? n id = none := by
  obtain ⟨k, rfl⟩ := Nat.exists_eq_add_of_le hle
  rw [ancestor?_add, h, Option.bind_none]

/-- Every parent is there, and no session has more ancestors than a bound. -/
structure Rooted (s : Store) (max : Nat) : Prop where
  closed : ∀ id p, s.parentOf? id = some p → s.Has p
  bounded : ∀ id, s.ancestor? (max + 1) id = none

/-- Sessions keep their parents, and a new session has a parent only if that was there before and
has fewer ancestors than a bound. -/
structure Extends (s : Store) (max : Nat) (s' : Store) : Prop where
  old : ∀ id, s.Has id → s'.link? id = s.link? id
  new : ∀ id p, ¬ s.Has id → s'.parentOf? id = some p → s.Has p ∧ s.ancestor? max p = none

namespace Extends

variable {max : Nat}

theorem refl (s : Store) (max : Nat) : s.Extends max s :=
  ⟨fun _ _ => rfl, fun _ _ hnot hp => absurd (Has.of_parentOf? hp) hnot⟩

theorem has (h : s.Extends max s') (hid : s.Has id) : s'.Has id := by
  unfold Has
  rw [h.old id hid]
  exact hid

theorem parentOf?_eq (h : s.Extends max s') (hid : s.Has id) :
    s'.parentOf? id = s.parentOf? id := by
  unfold parentOf?
  rw [h.old id hid]

/-- A session that was there keeps its ancestors. -/
theorem ancestor?_eq (h : s.Extends max s') (hclosed : ∀ id p, s.parentOf? id = some p → s.Has p)
    (n : Nat) (hid : s.Has id) : s'.ancestor? n id = s.ancestor? n id := by
  induction n generalizing id with
  | zero => rfl
  | succ n ih =>
    rw [ancestor?, ancestor?, h.parentOf?_eq hid]
    cases hp : s.parentOf? id with
    | none => rfl
    | some p => exact ih (hclosed id p hp)

/-- An ancestor that a session had stays its ancestor. -/
theorem ancestor?_some (h : s.Extends max s') {q : String} (n : Nat)
    (hq : s.ancestor? n id = some q) : s'.ancestor? n id = some q := by
  induction n generalizing id with
  | zero => exact hq
  | succ n ih =>
    obtain ⟨p, hp, hrest⟩ := Option.bind_eq_some_iff.mp hq
    rw [ancestor?, h.parentOf?_eq (.of_parentOf? hp), hp]
    exact ih hrest

/-- **The bound is kept.** -/
theorem rooted (h : s.Extends max s') (hs : s.Rooted max) : s'.Rooted max := by
  refine ⟨fun id p hp => ?_, fun id => ?_⟩
  · by_cases hid : s.Has id
    · exact h.has (hs.closed id p (h.parentOf?_eq hid ▸ hp))
    · exact h.has (h.new id p hid hp).1
  · by_cases hid : s.Has id
    · rw [h.ancestor?_eq hs.closed _ hid, hs.bounded]
    · rw [ancestor?]
      cases hp : s'.parentOf? id with
      | none => rfl
      | some p =>
        obtain ⟨hparent, hnone⟩ := h.new id p hid hp
        rw [Option.bind_some, h.ancestor?_eq hs.closed _ hparent, hnone]

/-- A store in which sessions still are there and have the same parents. -/
theorem of_parentOf? (hhas : ∀ id, s.Has id → s'.Has id)
    (hsame : ∀ id, s'.parentOf? id = s.parentOf? id) : s.Extends max s' := by
  refine ⟨fun id hid => ?_, fun id p hid hp => ?_⟩
  · obtain ⟨q, hq⟩ := Option.isSome_iff_exists.mp hid
    obtain ⟨q', hq'⟩ := Option.isSome_iff_exists.mp (hhas id hid)
    have hparent := hsame id
    rw [parentOf?, parentOf?, hq, hq', Option.join_some, Option.join_some] at hparent
    rw [hq, hq', hparent]
  · exact absurd (.of_parentOf? ((hsame id).symm.trans hp)) hid

/-- Where the bound leaves no room, nobody gets a parent. -/
theorem parentOf?_eq_of_zero (h : s.Extends 0 s') (id : String) :
    s'.parentOf? id = s.parentOf? id := by
  by_cases hid : s.Has id
  · exact h.parentOf?_eq hid
  · have hold : s.parentOf? id = none :=
      Option.eq_none_iff_forall_not_mem.mpr fun p hp => hid (.of_parentOf? hp)
    rw [hold]
    refine Option.eq_none_iff_forall_not_mem.mpr fun p hp => ?_
    cases (h.new id p hid hp).2

/-- A store of which each session is as before, or is new. -/
theorem of_link? (h : ∀ id, s'.link? id = s.link? id ∨ s.link? id = none ∧
    ∀ p, s'.link? id = some (some p) → s.Has p ∧ s.ancestor? max p = none) :
    s.Extends max s' := by
  refine ⟨fun id hid => ?_, fun id p hid hp => ?_⟩
  · rcases h id with hsame | ⟨hnone, -⟩
    · exact hsame
    · rw [Has, hnone] at hid
      cases hid
  · have hlink : s'.link? id = some (some p) := Option.join_eq_some_iff.mp hp
    rcases h id with hsame | ⟨-, hnew⟩
    · exact absurd (by rw [Has, ← hsame, hlink]; rfl) hid
    · exact hnew p hlink

end Extends

/-! ## Calls -/

theorem link?_put (m : MemoryStore) (v : Session) (id : String) :
    link? (.memory { m with sessions := Table.put v.id v m.sessions }) id =
      if v.id = id then some v.parent else link? (.memory m) id := by
  simp only [link?, get?_put]
  split <;> rfl

theorem link?_getOrPut (m : MemoryStore) (v : Session) (id : String) :
    link? (.memory (m.getOrPut v).store) id =
      (link? (.memory m) id).or (if v.id = id then some v.parent else none) := by
  simp only [link?, get?_getOrPut]
  cases Table.get? id m.sessions with
  | some found => rfl
  | none =>
    rw [Option.none_or]
    split <;> rfl

theorem link?_insertSession (d : Database) (row : SessionRow) (id : String) :
    link? (.database (d.insertSession row)) id =
      (link? (.database d) id).or (if row.id = id then some row.parent else none) := by
  simp only [link?, find?_insertSession]
  cases d.sessions.find? (·.id == id) with
  | some found => rfl
  | none =>
    rw [Option.none_or]
    split <;> rfl

theorem link?_upsertSession (d : Database) (row : SessionRow) (id : String) :
    link? (.database (d.upsertSession row)) id =
      if row.id = id then some ((link? (.database d) id).getD row.parent)
      else link? (.database d) id := by
  simp only [link?, find?_upsertSession]
  split
  · cases d.sessions.find? (·.id == id) <;> rfl
  · rfl

end Store

/-- A call keeps the parents of sessions: it creates a session where none has a parent, opens a task
below a session that is there and has fewer ancestors than a bound, or saves a session with its
parent. -/
def StoreCall.Keeps (s : Store) (max : Nat) : StoreCall → Prop
  | .createSession id _ => s.parentOf? id = none
  | .openTask _ parent _ => s.Has parent ∧ s.ancestor? max parent = none
  | .saveSession x => x.parent = s.parentOf? x.id
  | _ => True

namespace Store

variable {s : Store} {max : Nat} {c : StoreCall} {now : Timestamp}

/-- A session that is put there unless it is there already. -/
theorem extends_of_or {s' : Store} {id : String} {parent : Option String}
    (h : ∀ j, s'.link? j = (s.link? j).or (if id = j then some parent else none))
    (hparent : ∀ p, parent = some p → s.Has p ∧ s.ancestor? max p = none) : s.Extends max s' := by
  refine .of_link? fun j => ?_
  rw [h j]
  cases hlink : s.link? j with
  | some q => exact .inl rfl
  | none =>
    refine .inr ⟨rfl, fun p hp => hparent p ?_⟩
    rw [Option.none_or] at hp
    split at hp <;> cases hp
    rfl

/-- A session that is saved with its parent. -/
theorem extends_of_save {s' : Store} {id : String} {link : Option String}
    (h : ∀ j, s'.link? j = if id = j then some link else s.link? j)
    (hlink : link = s.parentOf? id) : s.Extends max s' := by
  refine .of_link? fun j => ?_
  rw [h j]
  split
  · rename_i hj
    subst hj
    rw [hlink, parentOf?]
    cases hold : s.link? id with
    | some q => exact .inl rfl
    | none => exact .inr ⟨rfl, fun p hp => by cases hp⟩
  · exact .inl rfl

theorem extends_upsertSession {d : Database} {row : SessionRow}
    (h : row.parent = (Store.database d).parentOf? row.id) :
    (Store.database d).Extends max (.database (d.upsertSession row)) := by
  have hlink : ∀ j, (Store.database (d.upsertSession row)).link? j =
      if row.id = j then some (((Store.database d).link? row.id).getD row.parent)
      else (Store.database d).link? j := by
    intro j
    rw [link?_upsertSession]
    split
    · rename_i hj
      rw [hj]
    · rfl
  refine extends_of_save hlink ?_
  rw [h, parentOf?]
  cases (Store.database d).link? row.id <;> rfl

theorem extends_answer_memory {m : MemoryStore} (h : c.Keeps (.memory m) max) (now : Timestamp) :
    (Store.memory m).Extends max (.memory (m.answer now c).store) := by
  cases c with
  | createSession id title =>
    exact extends_of_save (link?_put m (Session.fresh id title now)) (Eq.symm h)
  | openTask id parent title =>
    refine extends_of_or (link?_getOrPut m (Session.task id parent title now)) ?_
    rintro p ⟨⟩
    exact h
  | getSession id =>
    refine extends_of_or (link?_getOrPut m (Session.fresh id Session.defaultTitle now)) ?_
    rintro p ⟨⟩
  | saveSession x => exact extends_of_save (link?_put m { x with updatedAt := now }) h
  | updateMessage message =>
    refine .of_link? fun j => .inl ?_
    simp only [MemoryStore.answer, MemoryStore.updateMessage]
    split <;> rfl
  | _ => exact .of_link? fun j => .inl rfl

theorem extends_answer_database {d : Database} (h : c.Keeps (.database d) max) (now : Timestamp) :
    (Store.database d).Extends max (.database (d.answer now c).store) := by
  cases c with
  | createSession id title =>
    simp only [Database.answer, Database.createSession]
    split
    · rename_i row hrow
      refine extends_of_or (link?_insertSession d row) fun p hp => ?_
      obtain ⟨-, cost, -, haccount⟩ := ofSession?_eq_some hrow
      cases (congrArg Account.parent haccount).symm.trans hp
    · exact .refl _ max
  | openTask id parent title =>
    simp only [Database.answer, Database.openTask, Database.getOrInsert]
    split
    · rename_i row hrow
      refine extends_of_or (link?_insertSession d row) fun p hp => ?_
      obtain ⟨-, cost, -, haccount⟩ := ofSession?_eq_some hrow
      cases (congrArg Account.parent haccount).symm.trans hp
      exact h
    · exact .refl _ max
  | getSession id =>
    simp only [Database.answer, Database.getSession, Database.getOrInsert]
    split
    · rename_i row hrow
      refine extends_of_or (link?_insertSession d row) fun p hp => ?_
      cases (congrArg Account.parent (ofSession?_fresh hrow).2).symm.trans hp
    · exact .refl _ max
  | saveSession x =>
    simp only [Database.answer, Database.saveSession]
    split
    · rename_i row hrow
      obtain ⟨hid, cost, -, haccount⟩ := ofSession?_eq_some hrow
      have hx : x.parent = (Store.database d).parentOf? x.id := h
      have hparent : row.parent = x.parent := congrArg Account.parent haccount
      exact extends_upsertSession (by rw [hparent, hx, hid])
    · exact .refl _ max
  | updateMessage message =>
    refine .of_link? fun j => .inl ?_
    simp only [Database.answer, Database.updateMessage]
    split <;> rfl
  | deleteMessages session =>
    refine .of_link? fun j => .inl ?_
    simp only [Database.answer, Database.deleteMessages]
    split <;> rfl
  | _ => exact .of_link? fun j => .inl rfl

/-- **A call that keeps the parents of sessions.** -/
theorem extends_answer (h : c.Keeps s max) (now : Timestamp) :
    s.Extends max (s.answer now c).store := by
  cases s with
  | memory m => exact extends_answer_memory h now
  | database d => exact extends_answer_database h now

/-- A session that is there stays there. -/
theorem Has.answer {id : String} (h : s.Has id) (now : Timestamp) (c : StoreCall) :
    (s.answer now c).store.Has id := by
  have hor : ∀ o : Option (Option String), ((s.link? id).or o).isSome := fun o => by
    rw [Option.isSome_or]
    exact Bool.or_eq_true_iff.mpr (.inl h)
  cases s with
  | memory m =>
    cases c with
    | createSession i title =>
      refine (congrArg Option.isSome (link?_put m (Session.fresh i title now) id)).trans ?_
      split
      · rfl
      · exact h
    | saveSession x =>
      refine (congrArg Option.isSome (link?_put m { x with updatedAt := now } id)).trans ?_
      split
      · rfl
      · exact h
    | openTask i parent title =>
      exact (congrArg _ (link?_getOrPut m (Session.task i parent title now) id)).trans (hor _)
    | getSession i =>
      exact (congrArg _ (link?_getOrPut m (Session.fresh i _ now) id)).trans (hor _)
    | updateMessage message =>
      simp only [Store.answer, MemoryStore.answer, MemoryStore.updateMessage]
      split <;> exact h
    | _ => exact h
  | database d =>
    cases c with
    | createSession i title =>
      simp only [Store.answer, Database.answer, Database.createSession]
      split
      · exact (congrArg _ (link?_insertSession d _ id)).trans (hor _)
      · exact h
    | openTask i parent title =>
      simp only [Store.answer, Database.answer, Database.openTask, Database.getOrInsert]
      split
      · exact (congrArg _ (link?_insertSession d _ id)).trans (hor _)
      · exact h
    | getSession i =>
      simp only [Store.answer, Database.answer, Database.getSession, Database.getOrInsert]
      split
      · exact (congrArg _ (link?_insertSession d _ id)).trans (hor _)
      · exact h
    | saveSession x =>
      simp only [Store.answer, Database.answer, Database.saveSession]
      split
      · refine (congrArg Option.isSome (link?_upsertSession d _ id)).trans ?_
        split
        · rfl
        · exact h
      · exact h
    | updateMessage message =>
      simp only [Store.answer, Database.answer, Database.updateMessage]
      split <;> exact h
    | deleteMessages session =>
      simp only [Store.answer, Database.answer, Database.deleteMessages]
      split <;> exact h
    | _ => exact h

/-- A call that keeps parents and opens no task leaves every parent as it is. -/
theorem parentOf?_answer (h : c.Keeps s 0) (now : Timestamp) (id : String) :
    (s.answer now c).store.parentOf? id = s.parentOf? id :=
  (extends_answer h now).parentOf?_eq_of_zero id

/-! ## Sessions that are found -/

/-- Looking for a session gives nobody a parent. -/
theorem parentOf?_getSession (s : Store) (now : Timestamp) (id j : String) :
    (s.getSession now id).store.parentOf? j = s.parentOf? j := by
  have hstore : (s.getSession now id).store = (s.answer now (.getSession id)).store := by
    cases s <;> rfl
  have hne : (StoreCall.getSession id).files? ≠ some j := nofun
  rw [parentOf?_eq, parentOf?_eq, hstore, account_answer hne]

/-- A session that was looked for is there. -/
theorem has_getSession (s : Store) (now : Timestamp) (id : String) :
    (s.getSession now id).store.Has id := by
  cases s with
  | memory m =>
    have hlink := link?_getOrPut m (Session.fresh id Session.defaultTitle now) id
    rw [if_pos (by rfl)] at hlink
    refine (congrArg Option.isSome hlink).trans ?_
    simp
  | database d =>
    obtain ⟨x, hx⟩ := exists_getSession now id (.database d)
    simp only [getSession, StoreReply.lift, Database.getSession, Database.getOrInsert] at hx ⊢
    split at hx
    · rename_i row hrow
      have hlink := link?_insertSession d row id
      rw [if_pos (ofSession?_fresh hrow).1] at hlink
      refine (congrArg Option.isSome hlink).trans ?_
      simp
    · cases hx

theorem parent_of_getSession {x : Session} {id : String}
    (h : (s.getSession now id).result = .ok x) : x.parent = s.parentOf? id := by
  rw [parentOf?_eq, ← (account_getSession h).2]
  rfl

end Store

end AgentDesk
