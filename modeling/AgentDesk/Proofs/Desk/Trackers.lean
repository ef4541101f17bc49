import AgentDesk.Tracker
/-!
# What the operations of a tracker keep

Every operation of a tracker is one atomic step. No step gives a turn back to a session that lost
it, for generations are never used twice, and only a cancellation takes the registration of a turn
that did not end itself. A tracker is orderly if prompts wait only for sessions with a turn; the one
operation that can leave it disorderly is `Tracker.finish`.

A token that is canceled stays canceled, whatever tokens are added or canceled.

## Main definitions

* `TokenTree.Later` — a tree that came from another one.
* `Tracker.Moved` — what one operation may do.
* `Tracker.Orderly` — no prompt waits for a session without a turn.
-/

namespace AgentDesk

namespace TokenTree

/-- The tokens of one tree are there in another one, with their parents, and those that were
canceled still are. -/
def Later (t t' : TokenTree) : Prop :=
  ∀ (id : TokenId) (n : TokenNode), t.nodes[id]? = some n →
    ∃ n' : TokenNode, t'.nodes[id]? = some n' ∧ n'.parent = n.parent ∧ (n.canceled → n'.canceled)

theorem Later.refl (t : TokenTree) : Later t t := fun _ n h => ⟨n, h, rfl, fun hc => hc⟩

theorem Later.trans {t t' t'' : TokenTree} (h : Later t t') (h' : Later t' t'') :
    Later t t'' := by
  intro id n hn
  obtain ⟨n', hn', hparent, hcanceled⟩ := h id n hn
  obtain ⟨n'', hn'', hparent', hcanceled'⟩ := h' id n' hn'
  exact ⟨n'', hn'', hparent'.trans hparent, fun hc => hcanceled' (hcanceled hc)⟩

theorem later_fork (t : TokenTree) (parent : Option TokenId) : Later t (t.fork parent).2 := by
  intro id n hn
  refine ⟨n, ?_, rfl, fun hc => hc⟩
  have hlt : id < t.nodes.length := (List.getElem?_eq_some_iff.mp hn).1
  simpa [fork, List.getElem?_append_left hlt] using hn

theorem later_cancel (t : TokenTree) (token : TokenId) : Later t (t.cancel token) := by
  intro id n hn
  by_cases hid : token = id
  · exact ⟨{ n with canceled := true }, by simp [cancel, hid, hn], rfl, fun _ => rfl⟩
  · exact ⟨n, by simp [cancel, hid, hn], rfl, fun hc => hc⟩

namespace Later

variable {t t' : TokenTree}

theorem length_le (h : Later t t') : t.nodes.length ≤ t'.nodes.length := by
  refine Nat.le_of_not_lt fun hlt => ?_
  obtain ⟨n', hn', -, -⟩ := h t'.nodes.length _ (List.getElem?_eq_getElem hlt)
  simp at hn'

theorem canceledWithin (h : Later t t') {fuel fuel' : Nat} (hle : fuel ≤ fuel') {id : TokenId}
    (hc : t.canceledWithin fuel id) : t'.canceledWithin fuel' id := by
  induction fuel generalizing fuel' id with
  | zero => simp [TokenTree.canceledWithin] at hc
  | succ fuel ih =>
    obtain ⟨fuel', rfl⟩ : ∃ k, fuel' = k + 1 := ⟨fuel' - 1, by omega⟩
    have hle' : fuel ≤ fuel' := Nat.le_of_succ_le_succ hle
    simp only [TokenTree.canceledWithin] at hc ⊢
    cases hn : t.nodes[id]? with
    | none => simp [hn] at hc
    | some n =>
      obtain ⟨n', hn', hparent, hcanceled⟩ := h id n hn
      simp only [hn, Bool.or_eq_true] at hc
      simp only [hn', hparent, Bool.or_eq_true]
      refine hc.imp hcanceled fun hp => ?_
      cases hparent' : n.parent with
      | none => simp [hparent'] at hp
      | some p => exact ih hle' (by simpa [hparent'] using hp)

/-- **What was canceled stays canceled.** -/
theorem isCanceled (h : Later t t') {id : TokenId} (hc : t.isCanceled id) : t'.isCanceled id :=
  h.canceledWithin (Nat.succ_le_succ h.length_le) hc

end Later

end TokenTree

namespace Tracker

variable {t t' : Tracker} {s s' : String} {g g' : Nat}

/-! ## Reading a tracker -/

theorem owns_iff : t.owns s g ↔ ∃ turn, t.turnOf? s = some turn ∧ turn.generation = g := by
  unfold owns
  cases t.turnOf? s <;> simp

theorem isSessionBusy_eq_false : t.isSessionBusy s = false ↔ t.turnOf? s = none := by
  simp [isSessionBusy, Table.has, turnOf?]

/-! ## One operation -/

/-- What one operation of a tracker may do: it gives no turn back to a session that lost it. -/
structure Moved (t t' : Tracker) : Prop where
  generation : t.lastGeneration ≤ t'.lastGeneration
  turnOf? : ∀ s turn, turn.generation ≤ t.lastGeneration → t'.turnOf? s = some turn →
    t.turnOf? s = some turn

theorem Moved.owns (h : Moved t t') {s : String} {g : Nat} (hg : g ≤ t.lastGeneration)
    (ho : t'.owns s g) : t.owns s g := by
  obtain ⟨turn, hturn, rfl⟩ := owns_iff.mp ho
  exact owns_iff.mpr ⟨turn, h.turnOf? s turn hg hturn, rfl⟩

theorem Moved.refl (t : Tracker) : Moved t t := ⟨Nat.le_refl _, fun _ _ _ h => h⟩

/-- Erasing turns is a move. -/
theorem Moved.erase (hg : t'.lastGeneration = t.lastGeneration)
    (hturn : ∀ s, t'.turnOf? s = none ∨ t'.turnOf? s = t.turnOf? s) : Moved t t' := by
  refine ⟨hg ▸ Nat.le_refl _, fun s turn _ ho => ?_⟩
  rcases hturn s with h | h
  · cases h.symm.trans ho
  · exact h.symm.trans ho

theorem turnOf?_erase (t : Tracker) (queues : Table String (List String)) (s s' : String) :
    turnOf? { t with active := Table.erase s t.active, queues := queues } s' =
      if s' = s then none else t.turnOf? s' := by
  unfold turnOf?
  split
  · rename_i h
    rw [h, Table.get?_erase_self]
  · rename_i h
    rw [Table.get?_erase_of_ne h]

theorem queueOf_erase (t : Tracker) (active : Table String ActiveTurn) (s s' : String) :
    queueOf { t with active := active, queues := Table.erase s t.queues } s' =
      if s' = s then [] else t.queueOf s' := by
  unfold queueOf
  split
  · rename_i h
    rw [h, Table.get?_erase_self]
    rfl
  · rename_i h
    rw [Table.get?_erase_of_ne h]

@[simp] theorem turnOf?_clearQueue (t : Tracker) (s s' : String) :
    (t.clearQueue s).turnOf? s' = t.turnOf? s' := rfl

@[simp] theorem queueOf_clearQueue (t : Tracker) (s s' : String) :
    (t.clearQueue s).queueOf s' = if s' = s then [] else t.queueOf s' :=
  queueOf_erase t t.active s s'

/-- Behind a cancellation the session has neither a turn nor prompts that wait. -/
theorem turnOf?_cancel (t : Tracker) (tokens : TokenTree) (s s' : String) :
    (t.cancel tokens s).1.turnOf? s' = if s' = s then none else t.turnOf? s' := by
  unfold cancel
  cases hturn : t.turnOf? s with
  | none =>
    rw [turnOf?_clearQueue]
    split
    · rename_i h
      rw [h, hturn]
    · rfl
  | some turn => exact turnOf?_erase t t.queues s s'

theorem queueOf_cancel (t : Tracker) (tokens : TokenTree) (s s' : String) :
    (t.cancel tokens s).1.queueOf s' = if s' = s then [] else t.queueOf s' := by
  unfold cancel
  cases t.turnOf? s <;> exact queueOf_clearQueue ..

theorem turnOf?_finish (t : Tracker) (s s' : String) (g : Nat) :
    (t.finish s g).2.turnOf? s' = if t.owns s g ∧ s' = s then none else t.turnOf? s' := by
  unfold finish
  cases ho : t.owns s g with
  | false => simp
  | true => simpa using turnOf?_erase t t.queues s s'

@[simp] theorem queueOf_finish (t : Tracker) (s s' : String) (g : Nat) :
    (t.finish s g).2.queueOf s' = t.queueOf s' := by
  unfold finish
  split <;> rfl

/-- The prompts that a turn takes at its end are those that wait for it. -/
theorem finishOrTake_fst (t : Tracker) (s : String) (g : Nat) :
    (t.finishOrTake s g).1 = if t.owns s g then t.queueOf s else [] := by
  unfold finishOrTake
  split
  · dsimp only
    split <;> rfl
  · rfl

theorem turnOf?_finishOrTake (t : Tracker) (s s' : String) (g : Nat) :
    (t.finishOrTake s g).2.turnOf? s' =
      if t.owns s g ∧ t.queueOf s = [] ∧ s' = s then none else t.turnOf? s' := by
  unfold finishOrTake
  cases ho : t.owns s g with
  | false => simp
  | true =>
    cases hq : t.queueOf s with
    | nil => simpa using turnOf?_erase t (Table.erase s t.queues) s s'
    | cons p rest => simp [turnOf?]

theorem queueOf_finishOrTake (t : Tracker) (s s' : String) (g : Nat) :
    (t.finishOrTake s g).2.queueOf s' =
      if t.owns s g ∧ s' = s then [] else t.queueOf s' := by
  unfold finishOrTake
  cases ho : t.owns s g with
  | false => simp
  | true =>
    cases hq : t.queueOf s with
    | nil => simpa using queueOf_erase t (Table.erase s t.active) s s'
    | cons p rest => simpa using queueOf_erase t t.active s s'

/-- A session that took nothing at its end has lost its turn. -/
theorem not_owns_finishOrTake (h : (t.finishOrTake s g).1 = []) :
    ¬ (t.finishOrTake s g).2.owns s g := by
  rw [finishOrTake_fst] at h
  rw [owns_iff, turnOf?_finishOrTake]
  by_cases ho : t.owns s g
  · rw [if_pos ho] at h
    simp [ho, h]
  · simp [ho, ← owns_iff]

theorem queueOf_submit (t : Tracker) (tokens : TokenTree) (s : String) (parent : TokenId)
    (prompt s' : String) : (t.submit tokens s parent prompt).2.1.queueOf s' =
      if t.isSessionBusy s ∧ s' = s then t.queueOf s' ++ [prompt] else t.queueOf s' := by
  unfold submit
  cases hbusy : t.isSessionBusy s with
  | false => simp [queueOf]
  | true =>
    by_cases hs : s' = s
    · simp [hs, queueOf]
    · simp [hs, queueOf, Table.get?_put_of_ne hs]

theorem turnOf?_submit (t : Tracker) (tokens : TokenTree) (s : String) (parent : TokenId)
    (prompt s' : String) : (t.submit tokens s parent prompt).2.1.turnOf? s' =
      if t.isSessionBusy s = false ∧ s' = s then
        some ⟨(tokens.fork (some parent)).1, t.lastGeneration + 1⟩ else t.turnOf? s' := by
  unfold submit
  cases hbusy : t.isSessionBusy s with
  | true => simp [turnOf?]
  | false =>
    by_cases hs : s' = s
    · simp [hs, turnOf?]
    · simp [hs, turnOf?, Table.get?_put_of_ne hs]

/-! ## Every operation is a move -/

theorem moved_submit (t : Tracker) (tokens : TokenTree) (s : String) (parent : TokenId)
    (prompt : String) : Moved t (t.submit tokens s parent prompt).2.1 := by
  refine ⟨?_, fun s' turn hg hturn => ?_⟩
  · unfold submit
    split <;> simp
  · rw [turnOf?_submit] at hturn
    split at hturn
    · cases hturn
      exact absurd hg (Nat.not_succ_le_self _)
    · exact hturn

/-- A turn that starts has the latest generation. -/
theorem generation_submit (t : Tracker) (tokens : TokenTree) (s : String) (parent : TokenId)
    (prompt : String) (turn : ActiveTurn)
    (h : (t.submit tokens s parent prompt).1 = .started turn) :
    turn.generation = (t.submit tokens s parent prompt).2.1.lastGeneration := by
  unfold submit at h ⊢
  cases hbusy : t.isSessionBusy s with
  | true => simp [hbusy] at h
  | false =>
    simp only [hbusy, Bool.false_eq_true, if_false] at h ⊢
    cases h
    rfl

theorem later_submit (t : Tracker) (tokens : TokenTree) (s : String) (parent : TokenId)
    (prompt : String) : tokens.Later (t.submit tokens s parent prompt).2.2 := by
  unfold submit
  split
  · exact .refl tokens
  · exact tokens.later_fork (some parent)

theorem moved_clearQueue (t : Tracker) (s : String) : Moved t (t.clearQueue s) :=
  .erase rfl fun _ => .inr rfl

theorem moved_cancel (t : Tracker) (tokens : TokenTree) (s : String) :
    Moved t (t.cancel tokens s).1 := by
  refine .erase ?_ fun s' => ?_
  · unfold cancel
    split <;> rfl
  · rw [turnOf?_cancel]
    split <;> simp

theorem moved_finish (t : Tracker) (s : String) (g : Nat) : Moved t (t.finish s g).2 := by
  refine .erase ?_ fun s' => ?_
  · unfold finish
    split <;> rfl
  · rw [turnOf?_finish]
    split <;> simp

theorem moved_finishOrTake (t : Tracker) (s : String) (g : Nat) :
    Moved t (t.finishOrTake s g).2 := by
  refine .erase ?_ fun s' => ?_
  · unfold finishOrTake
    split
    · dsimp only
      split <;> rfl
    · rfl
  · rw [turnOf?_finishOrTake]
    split <;> simp

theorem later_cancelTurn (t : Tracker) (tokens : TokenTree) (s : String) :
    tokens.Later (t.cancel tokens s).2 := by
  unfold cancel
  split
  · exact tokens.later_cancel _
  · exact .refl tokens

/-! ## Who is registered -/

/-- A prompt that is submitted takes nobody's registration. -/
theorem owns_submit (h : t.owns s' g) (tokens : TokenTree) (s : String) (parent : TokenId)
    (prompt : String) : (t.submit tokens s parent prompt).2.1.owns s' g := by
  obtain ⟨turn, hturn, rfl⟩ := owns_iff.mp h
  refine owns_iff.mpr ⟨turn, ?_, rfl⟩
  rw [turnOf?_submit, if_neg ?_, hturn]
  rintro ⟨hidle, rfl⟩
  cases (isSessionBusy_eq_false.mp hidle).symm.trans hturn

/-- A turn that starts is registered, under a generation and with a token that are new. -/
theorem turnOf?_started {tokens : TokenTree} {parent : TokenId} {prompt : String}
    {turn : ActiveTurn} (h : (t.submit tokens s parent prompt).1 = .started turn) :
    (t.submit tokens s parent prompt).2.1.turnOf? s = some turn ∧
      t.lastGeneration < turn.generation ∧
      turn.token < (t.submit tokens s parent prompt).2.2.nodes.length := by
  unfold submit at h ⊢
  cases hbusy : t.isSessionBusy s with
  | true => simp [hbusy] at h
  | false =>
    simp only [hbusy, Bool.false_eq_true, if_false, Admission.started.injEq] at h ⊢
    subst h
    refine ⟨by simp [turnOf?], Nat.lt_succ_self _, ?_⟩
    simp [TokenTree.fork]

/-- Behind a cancellation, just the turns of other sessions are registered. -/
theorem owns_cancel_iff {tokens : TokenTree} :
    (t.cancel tokens s).1.owns s' g ↔ s' ≠ s ∧ t.owns s' g := by
  rw [owns_iff, owns_iff, turnOf?_cancel]
  by_cases hs : s' = s <;> simp [hs]

/-- Where the turn of one generation is removed, those of other generations are registered as
before. -/
theorem owns_of_erased {c : Prop} [Decidable c] (hown : c → t.owns s' g)
    (hturn : t'.turnOf? s' = if c then none else t.turnOf? s') (hne : g' ≠ g) :
    t'.owns s' g' ↔ t.owns s' g' := by
  by_cases hc : c
  · have hafter : ¬ t'.owns s' g' := by
      rw [owns_iff, hturn, if_pos hc]
      rintro ⟨_, h, -⟩
      cases h
    have hbefore : ¬ t.owns s' g' := by
      intro ho
      obtain ⟨turn, h, rfl⟩ := owns_iff.mp ho
      obtain ⟨turn', h', hgeneration⟩ := owns_iff.mp (hown hc)
      cases h.symm.trans h'
      exact hne hgeneration
    exact iff_of_false hafter hbefore
  · rw [owns_iff, owns_iff, hturn, if_neg hc]

theorem owns_finish_of_ne (hne : g' ≠ g) : (t.finish s g).2.owns s' g' ↔ t.owns s' g' :=
  owns_of_erased (fun h => h.2 ▸ h.1) (t.turnOf?_finish s s' g) hne

theorem owns_finishOrTake_of_ne (hne : g' ≠ g) :
    (t.finishOrTake s g).2.owns s' g' ↔ t.owns s' g' :=
  owns_of_erased (fun h => h.2.2 ▸ h.1) (t.turnOf?_finishOrTake s s' g) hne

/-- A turn that takes prompts at its end is registered, and it stays so. -/
theorem owns_of_finishOrTake (h : (t.finishOrTake s g).1 ≠ []) :
    t.owns s g ∧ (t.finishOrTake s g).2.owns s g := by
  rw [finishOrTake_fst] at h
  split at h
  · rename_i hown
    refine ⟨hown, ?_⟩
    rw [owns_iff, turnOf?_finishOrTake, if_neg fun hempty => h hempty.2.1]
    exact owns_iff.mp hown
  · exact absurd rfl h

/-! ## Order -/

/-- No prompt waits for a session without a turn. -/
def Orderly (t : Tracker) : Prop := ∀ s, t.turnOf? s = none → t.queueOf s = []

theorem orderly_idle : idle.Orderly := fun _ _ => rfl

namespace Orderly

theorem submit (h : t.Orderly) (tokens : TokenTree) (s : String) (parent : TokenId)
    (prompt : String) : (t.submit tokens s parent prompt).2.1.Orderly := by
  intro s' hs'
  rw [turnOf?_submit] at hs'
  rw [queueOf_submit]
  split at hs'
  · cases hs'
  · have hidle : t.isSessionBusy s' = false := isSessionBusy_eq_false.mpr hs'
    split
    · rename_i hbusy
      rw [hbusy.2] at hidle
      simp [hidle] at hbusy
    · exact h s' hs'

theorem clearQueue (h : t.Orderly) (s : String) : (t.clearQueue s).Orderly := by
  intro s' hs'
  rw [queueOf_clearQueue]
  split
  · rfl
  · exact h s' hs'

theorem cancel (h : t.Orderly) (tokens : TokenTree) (s : String) :
    (t.cancel tokens s).1.Orderly := by
  intro s' hs'
  rw [turnOf?_cancel] at hs'
  rw [queueOf_cancel]
  split
  · rfl
  · rename_i hne
    rw [if_neg hne] at hs'
    exact h s' hs'

theorem finishOrTake (h : t.Orderly) (s : String) (g : Nat) : (t.finishOrTake s g).2.Orderly := by
  intro s' hs'
  rw [turnOf?_finishOrTake] at hs'
  rw [queueOf_finishOrTake]
  split at hs'
  · rename_i howns
    rw [if_pos ⟨howns.1, howns.2.2⟩]
  · split
    · rfl
    · exact h s' hs'

/-- **A turn that leaves keeps the order, unless prompts wait behind it.** -/
theorem finish_iff (h : t.Orderly) (s : String) (g : Nat) :
    (t.finish s g).2.Orderly ↔ (t.owns s g → t.queueOf s = []) := by
  constructor
  · intro hafter ho
    have hnone : (t.finish s g).2.turnOf? s = none := by simp [turnOf?_finish, ho]
    simpa using hafter s hnone
  · intro hempty s' hs'
    rw [turnOf?_finish] at hs'
    rw [queueOf_finish]
    split at hs'
    · rename_i howns
      rw [howns.2]
      exact hempty howns.1
    · exact h s' hs'

end Orderly

end Tracker

end AgentDesk
