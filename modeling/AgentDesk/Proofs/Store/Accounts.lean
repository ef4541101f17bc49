import AgentDesk.Proofs.Store.Calls
import AgentDesk.Proofs.Store.Columns
/-!
# The accounts of sessions

The account of a session is what a store of either kind keeps of it besides its times and the number
of its messages. Only calls that write the row of a session can change its account, and a session
that is saved leaves its own account behind, but for the sign of a cost of zero, which a database
does not keep.

## Main definitions

* `Account`, `Session.account`, `Store.account`.
* `Account.Alike` — accounts that are equal but for the sign of a cost of zero.
* `Account.accrued` — an account behind some answers of a model.
* `Store.Filed` — every session is found under its own name.
* `Store.Words` — a database keeps counters as signed words.
-/

namespace AgentDesk

/-- What a store keeps of a session besides its times and the number of its messages. -/
structure Account where
  parent : Option String
  title : String
  promptTokens : Nat
  completionTokens : Nat
  summary : Option String
  cost : Float
deriving DecidableEq

/-- The account of a session. -/
def Session.account (s : Session) : Account :=
  ⟨s.parent, s.title, s.promptTokens, s.completionTokens, s.summary, s.cost⟩

/-- The account in a row. -/
def SessionRow.account (r : SessionRow) : Account :=
  ⟨r.parent, r.title, counterOf r.promptTokens, counterOf r.completionTokens, r.summary, r.cost⟩

namespace Account

/-- The account of a session that is not there yet. -/
def new : Account := ⟨none, Session.defaultTitle, 0, 0, none, 0⟩

/-- Accounts that are equal but for the sign of a cost of zero. -/
def Alike (a b : Account) : Prop :=
  { a with cost := b.cost } = b ∧ AlikeFloat a.cost b.cost

/-- An account behind some answers of a model. -/
def accrued (m : Model) (answers : List Tokens) (a : Account) : Account :=
  { a with
    promptTokens := a.promptTokens + (answers.map fun t => t.input + t.cacheWrite).sum
    completionTokens := a.completionTokens + (answers.map fun t => t.output + t.cacheRead).sum
    cost := addAll a.cost (answers.map (Usage.completionCost m)) }

variable {a b c : Account}

theorem Alike.refl (a : Account) : Alike a a := ⟨rfl, .refl _⟩

theorem Alike.trans (h : Alike a b) (h' : Alike b c) : Alike a c := by
  obtain ⟨hab, hcost⟩ := h
  obtain ⟨hbc, hcost'⟩ := h'
  refine ⟨?_, hcost.trans hcost'⟩
  rw [← hbc, ← hab]

theorem Alike.parent_eq (h : Alike a b) : a.parent = b.parent := by
  have := congrArg Account.parent h.1
  exact this

theorem Alike.accrued (h : Alike a b) (m : Model) (answers : List Tokens) :
    Alike (a.accrued m answers) (b.accrued m answers) := by
  obtain ⟨hab, hcost⟩ := h
  refine ⟨?_, hcost.addAll _⟩
  rw [← hab]
  rfl

theorem accrued_append (m : Model) (old new : List Tokens) (a : Account) :
    a.accrued m (old ++ new) = (a.accrued m old).accrued m new := by
  simp [Account.accrued, addAll_append, Nat.add_assoc]

end Account

/-- An account with a cost added to it. -/
def Account.charged (c : Float) (a : Account) : Account := { a with cost := a.cost + c }

theorem Account.Alike.charged {a b : Account} (h : a.Alike b) (c : Float) :
    (a.charged c).Alike (b.charged c) := by
  obtain ⟨hab, hcost⟩ := h
  refine ⟨?_, hcost.add c⟩
  rw [← hab]
  rfl

/-- Rolling up the cost of a task. -/
theorem Usage.account_rollUp (child parent : Session) :
    (rollUp child parent).account = parent.account.charged child.cost := rfl

/-- Accounting for one answer. -/
theorem Usage.account_accrue (m : Model) (t : Tokens) (s : Session) :
    (accrue m t s).account = s.account.accrued m [t] := rfl

namespace Store

/-- The account of a session in a store. -/
def account (id : String) : Store → Account
  | .memory s => ((Table.get? id s.sessions).map Session.account).getD .new
  | .database d => ((d.sessions.find? (·.id == id)).map SessionRow.account).getD .new

/-- Every session is found under its own name. -/
def Filed : Store → Prop
  | .memory s => ∀ (id : String) (session : Session),
      Table.get? id s.sessions = some session → session.id = id
  | .database _ => True

variable {now : Timestamp} {id : String} {s x x' : Session} {store : Store}

/-! ## Rows -/

theorem get?_put (id : String) (v : Session) (t : Table String Session) :
    Table.get? id (Table.put v.id v t) = if v.id = id then some v else Table.get? id t := by
  by_cases hid : v.id = id
  · rw [if_pos hid, ← hid, Table.get?_put_self]
  · rw [if_neg hid, Table.get?_put_of_ne (Ne.symm hid)]

/-- A session that is there stays as it is. -/
theorem get?_getOrPut (id : String) (v : Session) (s : MemoryStore) :
    Table.get? id (s.getOrPut v).store.sessions =
      (Table.get? id s.sessions).or (if v.id = id then some v else none) := by
  unfold MemoryStore.getOrPut
  cases hget : Table.get? v.id s.sessions with
  | some found =>
    dsimp only [StoreReply.quiet]
    split
    · rename_i hid
      simp [← hid, hget]
    · simp
  | none =>
    dsimp only [StoreReply.quiet]
    rw [get?_put]
    split
    · rename_i hid
      simp [← hid, hget]
    · simp

theorem find?_insertSession (id : String) (row : SessionRow) (d : Database) :
    (d.insertSession row).sessions.find? (·.id == id) =
      (d.sessions.find? (·.id == id)).or (if row.id = id then some row else none) := by
  unfold Database.insertSession
  split
  · rename_i hany
    split
    · rename_i hid
      have hsome : (d.sessions.find? (·.id == id)).isSome := by
        rw [List.find?_isSome, ← hid]
        exact List.any_eq_true.mp hany
      obtain ⟨found, hfound⟩ := Option.isSome_iff_exists.mp hsome
      simp [hfound]
    · simp
  · by_cases hid : row.id = id <;> simp [List.find?_append, hid]

/-- The row that is changed keeps its parent; a row that is missing is put there. -/
theorem find?_upsertSession (id : String) (row : SessionRow) (d : Database) :
    (d.upsertSession row).sessions.find? (·.id == id) =
      if row.id = id then
        some (((d.sessions.find? (·.id == id)).map fun r =>
          { row with parent := r.parent, createdAt := r.createdAt }).getD row)
      else d.sessions.find? (·.id == id) := by
  unfold Database.upsertSession
  split
  · rename_i hany
    dsimp only
    -- The change keeps every identifier, so that the search finds the same row.
    rw [List.find?_map]
    have hsame : ((fun r : SessionRow => r.id == id) ∘ fun r => if r.id == row.id then
        { row with parent := r.parent, createdAt := r.createdAt } else r) = (·.id == id) := by
      funext r
      by_cases hr : r.id = row.id <;> simp [hr]
    rw [hsame]
    cases hfind : d.sessions.find? (·.id == id) with
    | some r =>
      have hr : r.id = id := by simpa using List.find?_some hfind
      by_cases hid : row.id = id
      · simp [hr, hid]
      · simp [hr, hid, Ne.symm hid]
    | none =>
      have hid : row.id ≠ id := by
        rintro rfl
        obtain ⟨r, hr, hid⟩ := List.any_eq_true.mp hany
        exact absurd hid (List.find?_eq_none.mp hfind r hr)
      simp [hid]
  · rename_i hnone
    by_cases hid : row.id = id
    · have hfind : d.sessions.find? (·.id == id) = none := by
        rw [List.find?_eq_none, ← hid]
        exact fun r hr hr' => hnone (List.any_eq_true.mpr ⟨r, hr, hr'⟩)
      simp [List.find?_append, hid, hfind]
    · simp [List.find?_append, hid]

/-! ## What calls do to accounts -/

/-- A row that is put there without saying anything changes no account. -/
theorem getD_map_or (f : α → Account) (v : α) (hv : f v = .new) (o : Option α) (p : Prop)
    [Decidable p] :
      ((o.or (if p then some v else none)).map f).getD .new = (o.map f).getD .new := by
  cases o with
  | some x => rfl
  | none =>
    rw [Option.none_or]
    split
    · exact hv
    · rfl

/-- The account of a session that the store in memory keeps under a certain row. -/
theorem account_memory {m m' : MemoryStore}
    (h : Table.get? id m'.sessions = Table.get? id m.sessions) :
    account id (.memory m') = account id (.memory m) := by
  simp only [account, h]

@[inherit_doc account_memory]
theorem account_database {d d' : Database}
    (h : d'.sessions.find? (·.id == id) = d.sessions.find? (·.id == id)) :
    account id (.database d') = account id (.database d) := by
  simp only [account, h]

/-- What the row of a session says, with the counters and the cost that a database keeps. -/
theorem ofSession?_eq_some {row : SessionRow} (h : SessionRow.ofSession? s = some row) :
    row.id = s.id ∧ ∃ cost, realColumn? s.cost = some cost ∧ row.account =
      { s.account with
        promptTokens := counterOf (signedWord s.promptTokens)
        completionTokens := counterOf (signedWord s.completionTokens)
        cost } := by
  obtain ⟨cost, hcost, rfl⟩ := Option.map_eq_some_iff.mp h
  refine ⟨rfl, cost, hcost, ?_⟩
  simp only [SessionRow.account, Session.account]

/-- The row of a session that is opened without a title says nothing. -/
theorem ofSession?_fresh {row : SessionRow}
    (h : SessionRow.ofSession? (Session.fresh id Session.defaultTitle now) = some row) :
    row.id = id ∧ row.account = .new := by
  obtain ⟨hid, cost, hcost, haccount⟩ := ofSession?_eq_some h
  have hzero : realColumn? 0 = some 0 := by rfl
  obtain rfl : (0 : Float) = cost := Option.some.inj (hzero.symm.trans hcost)
  refine ⟨hid, haccount.trans ?_⟩
  have hcount : counterOf (signedWord 0) = 0 := by
    unfold signedWord counterOf
    simp
  simp [Session.fresh, Session.account, Account.new, hcount]

theorem account_answer_memory {c : StoreCall} (h : c.files? ≠ some id) (now : Timestamp)
    (m : MemoryStore) : account id (.memory (m.answer now c).store) = account id (.memory m) := by
  cases c with
  | createSession id' title =>
    have hne : (Session.fresh id' title now).id ≠ id := fun hid => h (congrArg some hid)
    exact account_memory ((get?_put id _ m.sessions).trans (if_neg hne))
  | openTask id' parent title =>
    have hne : (Session.task id' parent title now).id ≠ id := fun hid => h (congrArg some hid)
    refine account_memory ((get?_getOrPut id _ m).trans ?_)
    rw [if_neg hne, Option.or_none]
  | getSession id' =>
    have hget := get?_getOrPut id (Session.fresh id' Session.defaultTitle now) m
    refine (congrArg (fun v => (v.map Session.account).getD .new) hget).trans ?_
    exact getD_map_or Session.account (Session.fresh id' Session.defaultTitle now) rfl _ (id' = id)
  | saveSession x =>
    have hne : x.id ≠ id := fun hid => h (congrArg some hid)
    exact account_memory ((get?_put id { x with updatedAt := now } m.sessions).trans (if_neg hne))
  | updateMessage message =>
    refine account_memory ?_
    simp only [MemoryStore.answer, MemoryStore.updateMessage]
    split <;> rfl
  | _ => rfl

theorem account_answer_database {c : StoreCall} (h : c.files? ≠ some id) (now : Timestamp)
    (d : Database) :
    account id (.database (d.answer now c).store) = account id (.database d) := by
  cases c with
  | createSession id' title =>
    simp only [Database.answer, Database.createSession]
    split
    · rename_i row hrow
      have hne : row.id ≠ id := fun hid =>
        h (congrArg some ((ofSession?_eq_some hrow).1.symm.trans hid))
      refine account_database ((find?_insertSession id _ d).trans ?_)
      rw [if_neg hne, Option.or_none]
    · rfl
  | openTask id' parent title =>
    simp only [Database.answer, Database.openTask, Database.getOrInsert]
    split
    · rename_i row hrow
      have hne : row.id ≠ id := fun hid =>
        h (congrArg some ((ofSession?_eq_some hrow).1.symm.trans hid))
      refine account_database ((find?_insertSession id _ d).trans ?_)
      rw [if_neg hne, Option.or_none]
    · rfl
  | getSession id' =>
    simp only [Database.answer, Database.getSession, Database.getOrInsert]
    split
    · rename_i row hrow
      obtain ⟨-, haccount⟩ := ofSession?_fresh hrow
      refine (congrArg (fun v => (v.map SessionRow.account).getD .new)
        (find?_insertSession id row d)).trans ?_
      exact getD_map_or SessionRow.account row haccount _ (row.id = id)
    · rfl
  | saveSession x =>
    simp only [Database.answer, Database.saveSession]
    split
    · rename_i row hrow
      have hne : row.id ≠ id := fun hid =>
        h (congrArg some ((ofSession?_eq_some hrow).1.symm.trans hid))
      exact account_database ((find?_upsertSession id _ d).trans (if_neg hne))
    · rfl
  | updateMessage message =>
    refine account_database ?_
    simp only [Database.answer, Database.updateMessage]
    split <;> rfl
  | deleteMessages session =>
    refine account_database ?_
    simp only [Database.answer, Database.deleteMessages]
    split <;> rfl
  | _ => rfl

/-- **A call changes no account but that of the session whose row it writes.** -/
theorem account_answer {c : StoreCall} (h : c.files? ≠ some id) (now : Timestamp) (s : Store) :
    account id (s.answer now c).store = account id s := by
  cases s with
  | memory m => exact account_answer_memory h now m
  | database d => exact account_answer_database h now d

/-! ## What calls find and leave -/

theorem filed_put {m : MemoryStore} (h : Filed (.memory m)) (v : Session) :
    Filed (.memory { m with sessions := Table.put v.id v m.sessions }) := by
  intro id x hx
  rw [get?_put] at hx
  split at hx
  · rename_i hid
    obtain rfl := Option.some.inj hx
    exact hid
  · exact h id x hx

theorem filed_getOrPut {m : MemoryStore} (h : Filed (.memory m)) (v : Session) :
    Filed (.memory (m.getOrPut v).store) := by
  unfold MemoryStore.getOrPut
  split
  · exact h
  · exact filed_put h v

/-- Every call leaves the sessions under their own names. -/
theorem Filed.answer {s : Store} (h : s.Filed) (now : Timestamp) (c : StoreCall) :
    (s.answer now c).store.Filed := by
  cases s with
  | database d => trivial
  | memory m =>
    cases c with
    | createSession id title => exact filed_put h (Session.fresh id title now)
    | openTask callId parent title => exact filed_getOrPut h (Session.task callId parent title now)
    | getSession id => exact filed_getOrPut h (Session.fresh id Session.defaultTitle now)
    | saveSession x => exact filed_put h { x with updatedAt := now }
    | updateMessage message =>
      simp only [Store.answer, MemoryStore.answer, MemoryStore.updateMessage]
      split <;> exact h
    | listSessions | createMessage | getMessage | listMessages | deleteMessages => exact h

/-- **A session that is found has the account that is kept under its name**, and that name, if
sessions are kept under their own names. -/
theorem account_getSession (h : (store.getSession now id).result = .ok x) :
    (store.Filed → x.id = id) ∧ x.account = account id store := by
  cases store with
  | memory m =>
    simp only [getSession, StoreReply.lift, MemoryStore.getSession, MemoryStore.getOrPut] at h
    cases hget : Table.get? id m.sessions with
    | some found =>
      have hfound : Table.get? (Session.fresh id Session.defaultTitle now).id m.sessions =
        some found := hget
      rw [hfound] at h
      cases h
      refine ⟨fun hfiled => hfiled id found hget, ?_⟩
      simp only [account, hget]
      rfl
    | none =>
      have hnone : Table.get? (Session.fresh id Session.defaultTitle now).id m.sessions = none :=
        hget
      rw [hnone] at h
      cases h
      refine ⟨fun _ => rfl, ?_⟩
      simp only [account, hget]
      rfl
  | database d =>
    simp only [getSession, StoreReply.lift, Database.getSession, Database.getOrInsert] at h
    split at h
    · rename_i row hrow
      obtain ⟨hid, haccount⟩ := ofSession?_fresh hrow
      have hfound : (d.insertSession row).sessions.find? (·.id == id) =
          (d.sessions.find? (·.id == id)).or (some row) := by
        rw [find?_insertSession, if_pos hid]
      simp only [StoreReply.quiet, Database.selectSession] at h
      split at h
      · rename_i found hselected
        cases h
        have hfoundId : found.id = id := by
          exact beq_iff_eq.mp (List.find?_some hselected :)
        refine ⟨fun _ => hfoundId, ?_⟩
        have hsome := hfound.symm.trans hselected
        simp only [account]
        cases hfind : d.sessions.find? (·.id == id) with
        | some r =>
          rw [hfind] at hsome
          cases hsome
          rfl
        | none =>
          rw [hfind] at hsome
          cases hsome
          exact haccount
      · cases h
    · cases h

/-- A session is always found. -/
theorem exists_getSession (now : Timestamp) (id : String) (store : Store) :
    ∃ x, (store.getSession now id).result = .ok x := by
  cases store with
  | memory m =>
    simp only [getSession, StoreReply.lift, MemoryStore.getSession, MemoryStore.getOrPut]
    split <;> exact ⟨_, rfl⟩
  | database d =>
    have hzero : realColumn? 0 = some 0 := by rfl
    have hrow : (SessionRow.ofSession? (Session.fresh id Session.defaultTitle now)).isSome := by
      simp [SessionRow.ofSession?, Session.fresh, hzero]
    obtain ⟨row, hrow⟩ := Option.isSome_iff_exists.mp hrow
    have hfound : ((d.insertSession row).sessions.find? (·.id == id)).isSome := by
      rw [find?_insertSession, if_pos (ofSession?_fresh hrow).1]
      simp
    obtain ⟨found, hfound⟩ := Option.isSome_iff_exists.mp hfound
    have hselect : (d.insertSession row).selectSession now id =
        .ok ((d.insertSession row).sessionOf now found) := by
      simp only [Database.selectSession, hfound]
    simp only [getSession, StoreReply.lift, Database.getSession, Database.getOrInsert, hrow]
    exact ⟨_, hselect⟩

/-- The row that is there behind a change has the account that was given, but for its parent, which
stays. -/
theorem account_upsertSession (d : Database) (row : SessionRow) :
    ∃ kept, (d.upsertSession row).sessions.find? (·.id == row.id) = some kept ∧
      kept.account = { row.account with parent := kept.parent } ∧
      ((account row.id (.database d)).parent = row.parent → kept.parent = row.parent) := by
  have hupsert := find?_upsertSession row.id row d
  rw [if_pos rfl] at hupsert
  simp only [account]
  cases hfind : d.sessions.find? (·.id == row.id) with
  | none =>
    rw [hfind] at hupsert
    exact ⟨row, hupsert, rfl, fun _ => rfl⟩
  | some r =>
    rw [hfind] at hupsert
    exact ⟨_, hupsert, rfl, id⟩

/-- What a database answers when a session is saved, and the row that is there behind it. -/
theorem saveSession_database {d : Database} (h : (d.saveSession now s).result = .ok x) :
    ∃ kept, (d.saveSession now s).store.sessions.find? (·.id == s.id) = some kept ∧
      x.account = kept.account ∧ (∃ cost, realColumn? s.cost = some cost ∧ kept.account =
        { s.account with
          parent := kept.parent
          promptTokens := counterOf (signedWord s.promptTokens)
          completionTokens := counterOf (signedWord s.completionTokens)
          cost }) ∧
      ((account s.id (.database d)).parent = s.parent → kept.parent = s.parent) := by
  unfold Database.saveSession at h ⊢
  cases hrow : SessionRow.ofSession? { s with updatedAt := now } with
  | none =>
    rw [hrow] at h
    cases h
  | some row =>
    rw [hrow] at h
    obtain ⟨hid, cost, hcost, haccount⟩ := ofSession?_eq_some hrow
    obtain ⟨kept, hkept, hsame, hparent⟩ := account_upsertSession d row
    have hrowParent : row.parent = s.parent := congrArg Account.parent haccount
    rw [hid] at hkept hparent
    simp only [StoreReply.quiet, Database.selectSession, hkept, Except.ok.injEq] at h
    refine ⟨kept, hkept, h ▸ rfl, ⟨cost, hcost, ?_⟩, hrowParent ▸ hparent⟩
    rw [hsame, haccount]
    simp only [Session.account]

/-- The counters of a session that is saved come back as they were, as long as they fit into signed
words. -/
theorem counters_saveSession (h : (store.saveSession now s).result = .ok x)
    (hprompt : s.promptTokens < 2 ^ 63) (hcompletion : s.completionTokens < 2 ^ 63) :
    x.promptTokens = s.promptTokens ∧ x.completionTokens = s.completionTokens := by
  cases store with
  | memory m =>
    cases h
    exact ⟨rfl, rfl⟩
  | database d =>
    have hreply : (d.saveSession now s).result = .ok x := h
    obtain ⟨kept, -, hx, ⟨cost, -, haccount⟩, -⟩ := saveSession_database hreply
    rw [haccount, counterOf_signedWord hprompt, counterOf_signedWord hcompletion] at hx
    exact ⟨congrArg Account.promptTokens hx, congrArg Account.completionTokens hx⟩

/-- **A session that is saved leaves its own account behind**, if its counters came back as they
were and its parent is the one that is kept. -/
theorem account_saveSession (h : (store.saveSession now s).result = .ok x)
    (hprompt : x.promptTokens = s.promptTokens)
    (hcompletion : x.completionTokens = s.completionTokens)
    (hparent : (account s.id store).parent = s.parent) :
    Account.Alike (account s.id (store.saveSession now s).store) s.account := by
  cases store with
  | memory m =>
    have hget := get?_put s.id { s with updatedAt := now } m.sessions
    rw [if_pos rfl] at hget
    simp only [saveSession, StoreReply.lift, MemoryStore.saveSession, StoreReply.quiet, account,
      hget]
    exact .refl _
  | database d =>
    have hreply : (d.saveSession now s).result = .ok x := h
    obtain ⟨kept, hkept, hx, ⟨cost, hcost, haccount⟩, hsame⟩ := saveSession_database hreply
    have hprompt' : x.account.promptTokens = s.promptTokens := hprompt
    have hcompletion' : x.account.completionTokens = s.completionTokens := hcompletion
    rw [hx, haccount] at hprompt' hcompletion'
    have hkept' : account s.id ((database d).saveSession now s).store = kept.account := by
      simp only [saveSession, StoreReply.lift, account, hkept]
      rfl
    rw [hkept', haccount, hsame hparent]
    dsimp only at hprompt' hcompletion'
    rw [hprompt', hcompletion']
    exact ⟨rfl, realColumn?_alike hcost⟩

/-- A session that cannot be saved leaves every account as it was. -/
theorem account_saveSession_error {failure : StoreFailure}
    (h : (store.saveSession now s).result = .error failure) (id : String) :
    account id (store.saveSession now s).store = account id store := by
  cases store with
  | memory m => cases h
  | database d =>
    simp only [saveSession, StoreReply.lift, Database.saveSession] at h ⊢
    split at h
    · rename_i row hrow
      obtain ⟨kept, hkept, -⟩ := account_upsertSession d row
      rw [(ofSession?_eq_some hrow).1] at hkept
      simp only [StoreReply.quiet, Database.selectSession, hkept] at h
      cases h
    · rfl

/-! ## Counters -/

/-- Counters become signed words in a row. -/
theorem words_ofSession? {row : SessionRow} (h : SessionRow.ofSession? s = some row) :
    row.promptTokens < 2 ^ 63 ∧ row.completionTokens < 2 ^ 63 := by
  have hword : ∀ n : Nat, signedWord n < 2 ^ 63 := by
    intro n
    have hlt : (n : Int).bmod UInt64.size < (UInt64.size + 1) / 2 := Int.bmod_lt (by decide)
    unfold signedWord
    rw [UInt64.size] at hlt ⊢
    omega
  obtain ⟨cost, -, rfl⟩ := Option.map_eq_some_iff.mp h
  dsimp only
  exact ⟨hword s.promptTokens, hword s.completionTokens⟩

/-- The counters in the rows of a database are signed words. -/
def Words : Store → Prop
  | .memory _ => True
  | .database d => ∀ row ∈ d.sessions,
      row.promptTokens < 2 ^ 63 ∧ row.completionTokens < 2 ^ 63

theorem words_insertSession {d : Database} {row : SessionRow} (h : Words (.database d))
    (hrow : SessionRow.ofSession? s = some row) : Words (.database (d.insertSession row)) := by
  intro r hr
  unfold Database.insertSession at hr
  split at hr
  · exact h r hr
  · rcases List.mem_append.mp hr with hold | hnew
    · exact h r hold
    · obtain rfl := List.mem_singleton.mp hnew
      exact words_ofSession? hrow

theorem words_upsertSession {d : Database} {row : SessionRow} (h : Words (.database d))
    (hrow : SessionRow.ofSession? s = some row) : Words (.database (d.upsertSession row)) := by
  intro r hr
  have hword := words_ofSession? hrow
  unfold Database.upsertSession at hr
  split at hr
  · obtain ⟨old, hold, rfl⟩ := List.mem_map.mp hr
    split
    · exact hword
    · exact h old hold
  · rcases List.mem_append.mp hr with hold | hnew
    · exact h r hold
    · obtain rfl := List.mem_singleton.mp hnew
      exact hword

/-- Counters are kept as signed words. -/
theorem Words.answer (h : store.Words) (now : Timestamp) (c : StoreCall) :
    (store.answer now c).store.Words := by
  cases store with
  | memory m => trivial
  | database d =>
    cases c with
    | createSession id title =>
      simp only [Store.answer, Database.answer, Database.createSession]
      split
      · rename_i hrow
        exact words_insertSession h hrow
      · exact h
    | openTask id parent title =>
      simp only [Store.answer, Database.answer, Database.openTask, Database.getOrInsert]
      split
      · rename_i hrow
        exact words_insertSession h hrow
      · exact h
    | getSession id =>
      simp only [Store.answer, Database.answer, Database.getSession, Database.getOrInsert]
      split
      · rename_i hrow
        exact words_insertSession h hrow
      · exact h
    | saveSession x =>
      simp only [Store.answer, Database.answer, Database.saveSession]
      split
      · rename_i hrow
        exact words_upsertSession h hrow
      · exact h
    | updateMessage message =>
      simp only [Store.answer, Database.answer, Database.updateMessage]
      split <;> exact h
    | deleteMessages session =>
      simp only [Store.answer, Database.answer, Database.deleteMessages]
      split <;> exact h
    | listSessions | createMessage | getMessage | listMessages => exact h

/-- The counters in a database fit into signed words. -/
theorem Words.account_lt {d : Database} (h : Words (.database d)) (id : String) :
    (account id (.database d)).promptTokens < 2 ^ 63 ∧
      (account id (.database d)).completionTokens < 2 ^ 63 := by
  simp only [account]
  cases hfind : d.sessions.find? (·.id == id) with
  | none => decide
  | some row =>
    obtain ⟨hprompt, hcompletion⟩ := h row (List.mem_of_find?_eq_some hfind)
    simp only [Option.map_some, Option.getD_some, SessionRow.account, counterOf]
    omega

/-- A session that is saved with the counters that it has keeps them. -/
theorem Words.counters (hwords : store.Words) (h : (store.saveSession now s).result = .ok x)
    (hprompt : s.promptTokens = (account s.id store).promptTokens)
    (hcompletion : s.completionTokens = (account s.id store).completionTokens) :
    x.promptTokens = s.promptTokens ∧ x.completionTokens = s.completionTokens := by
  cases store with
  | memory m =>
    cases h
    exact ⟨rfl, rfl⟩
  | database d =>
    obtain ⟨hprompt', hcompletion'⟩ := Words.account_lt hwords s.id
    exact counters_saveSession h (hprompt ▸ hprompt') (hcompletion ▸ hcompletion')

end Store

end AgentDesk
