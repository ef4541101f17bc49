import AgentDesk.Proofs.Desk.Trackers
/-!
# Which tokens are canceled

Tokens form a forest: a token names its parent, which is older. A token is canceled exactly if it
lies below a token that was itself canceled. So a new token is canceled as far as its parent is, and
canceling a token reaches the tokens below it and no others.

## Main definitions

* `TokenTree.Ordered` — parents are older than their children.
* `TokenTree.Below` — one token is, or descends from, another one.
-/

namespace AgentDesk

namespace TokenTree

variable {t : TokenTree} {k id : TokenId}

/-- Parents are older than their children. -/
def Ordered (t : TokenTree) : Prop :=
  ∀ (id : TokenId) (n : TokenNode) (p : TokenId), t.nodes[id]? = some n → n.parent = some p → p < id

/-- A token is a certain other one, or descends from it. -/
inductive Below (t : TokenTree) (k : TokenId) : TokenId → Prop where
  | self : Below t k k
  | child {id : TokenId} {n : TokenNode} {p : TokenId} :
    t.nodes[id]? = some n → n.parent = some p → Below t k p → Below t k id

/-- A token whose node is known lies below its own parent and whatever that lies below. -/
theorem below_iff_of_node {n : TokenNode} (hn : t.nodes[id]? = some n) :
    t.Below k id ↔ k = id ∨ ∃ p, n.parent = some p ∧ t.Below k p := by
  constructor
  · intro h
    cases h with
    | self => exact .inl rfl
    | child hn' hp hbelow =>
      obtain rfl := Option.some.inj (hn.symm.trans hn')
      exact .inr ⟨_, hp, hbelow⟩
  · rintro (rfl | ⟨p, hp, hbelow⟩)
    · exact .self
    · exact .child hn hp hbelow

/-- A token that is not there lies below none but itself. -/
theorem below_iff_of_none (hn : t.nodes[id]? = none) : t.Below k id ↔ k = id := by
  constructor
  · intro h
    cases h with
    | self => rfl
    | child hn' => cases hn.symm.trans hn'
  · rintro rfl
    exact .self

/-- What a token lies below is older, or the token itself. -/
theorem Below.le (h : t.Ordered) (hbelow : t.Below k id) : k ≤ id := by
  induction hbelow with
  | self => exact Nat.le_refl k
  | child hn hp _ ih => exact Nat.le_trans ih (Nat.le_of_lt (h _ _ _ hn hp))

/-! ## Canceled tokens -/

theorem canceledWithin_iff (h : t.Ordered) {fuel : Nat} (hfuel : id < fuel) :
    t.canceledWithin fuel id ↔ ∃ k n, t.Below k id ∧ t.nodes[k]? = some n ∧ n.canceled := by
  -- Parents are older, so the fuel that is enough for a token is enough for its parent.
  induction fuel generalizing id with
  | zero => exact absurd hfuel (Nat.not_lt_zero id)
  | succ fuel ih =>
    rw [canceledWithin]
    cases hn : t.nodes[id]? with
    | none => simp [below_iff_of_none hn, hn]
    | some n =>
      cases hp : n.parent with
      | none => simp [below_iff_of_node hn, hn, hp]
      | some p =>
        have hlt : p < fuel := Nat.lt_of_lt_of_le (h id n p hn hp) (Nat.le_of_lt_succ hfuel)
        simp [below_iff_of_node hn, hn, hp, ih hlt, or_and_right, exists_or]

/-- **A token is canceled exactly if it is, or descends from, a token that was itself canceled.** -/
theorem isCanceled_iff (h : t.Ordered) :
    t.isCanceled id ↔ ∃ k n, t.Below k id ∧ t.nodes[k]? = some n ∧ n.canceled := by
  by_cases hid : id < t.nodes.length
  · exact canceledWithin_iff h (Nat.lt_succ_of_lt hid)
  · have hn : t.nodes[id]? = none := List.getElem?_eq_none (Nat.le_of_not_lt hid)
    rw [isCanceled, canceledWithin]
    simp [below_iff_of_none hn, hn]

/-- The status of a token that was not itself canceled is that of its parent. -/
theorem isCanceled_iff_parent (h : t.Ordered) {p : TokenId}
    (hn : t.nodes[id]? = some ⟨some p, false⟩) : t.isCanceled id ↔ t.isCanceled p := by
  rw [isCanceled_iff h, isCanceled_iff h]
  simp [below_iff_of_node hn, or_and_right, exists_or, hn]

/-! ## New tokens -/

theorem ordered_empty : empty.Ordered := by
  intro id n p hn
  simp [empty] at hn

/-- The nodes that are there stay as they are when a token is added. -/
theorem nodes_fork_of_lt (hid : id < t.nodes.length) (parent : Option TokenId) :
    (t.fork parent).2.nodes[id]? = t.nodes[id]? :=
  List.getElem?_append_left hid

theorem nodes_fork_self (t : TokenTree) (parent : Option TokenId) :
    (t.fork parent).2.nodes[(t.fork parent).1]? = some ⟨parent, false⟩ :=
  List.getElem?_concat_length

theorem ordered_fork (h : t.Ordered) {parent : Option TokenId}
    (hparent : ∀ p ∈ parent, p < t.nodes.length) : (t.fork parent).2.Ordered := by
  intro id n p hn hp
  by_cases hid : id < t.nodes.length
  · rw [nodes_fork_of_lt hid] at hn
    exact h id n p hn hp
  · rw [fork, List.getElem?_append_right (Nat.le_of_not_lt hid),
      List.getElem?_singleton] at hn
    split at hn
    · cases hn
      exact Nat.lt_of_lt_of_le (hparent p hp) (Nat.le_of_not_lt hid)
    · cases hn

theorem below_fork_iff (h : t.Ordered) (parent : Option TokenId) (hid : id < t.nodes.length) :
    (t.fork parent).2.Below k id ↔ t.Below k id := by
  -- Induction on the token itself: the chain of its ancestors goes down.
  induction id using Nat.strongRecOn with
  | ind id ih =>
    have hn : t.nodes[id]? = some t.nodes[id] := List.getElem?_eq_getElem hid
    rw [below_iff_of_node hn, below_iff_of_node ((nodes_fork_of_lt hid parent).trans hn)]
    refine or_congr_right (exists_congr fun p => and_congr_right fun hp => ?_)
    have hlt : p < id := h id _ p hn hp
    exact ih p hlt (Nat.lt_trans hlt hid)

/-- **A new token leaves the status of every other one as it was.** -/
theorem isCanceled_fork (h : t.Ordered) {parent : Option TokenId}
    (hparent : ∀ p ∈ parent, p < t.nodes.length) (hid : id < t.nodes.length) :
    (t.fork parent).2.isCanceled id ↔ t.isCanceled id := by
  rw [isCanceled_iff (ordered_fork h hparent), isCanceled_iff h]
  refine exists_congr fun k => exists_congr fun n => ?_
  rw [below_fork_iff h parent hid]
  refine and_congr_right fun hbelow => ?_
  have hk : k ≤ id := hbelow.le h
  rw [nodes_fork_of_lt (Nat.lt_of_le_of_lt hk hid)]

/-! ## Canceling a token -/

theorem nodes_cancel (t : TokenTree) (k id : TokenId) :
    (t.cancel k).nodes[id]? =
      (t.nodes[id]?).map fun n => if k = id then { n with canceled := true } else n := by
  rw [cancel, List.getElem?_modify]
  split <;> cases t.nodes[id]? <;> rfl

/-- Canceling a token changes no other node. -/
theorem nodes_cancel_of_ne (h : k ≠ id) : (t.cancel k).nodes[id]? = t.nodes[id]? := by
  simp [nodes_cancel, h]

theorem ordered_cancel (h : t.Ordered) (k : TokenId) : (t.cancel k).Ordered := by
  intro id n p hn hp
  rw [nodes_cancel, Option.map_eq_some_iff] at hn
  obtain ⟨n', hn', rfl⟩ := hn
  refine h id n' p hn' ?_
  split at hp <;> exact hp

theorem Below.later {t' : TokenTree} (h : t.Later t') (hbelow : t.Below k id) : t'.Below k id := by
  induction hbelow with
  | self => exact .self
  | child hn hp _ ih =>
    obtain ⟨n', hn', hparent, -⟩ := h _ _ hn
    exact .child hn' (hparent.trans hp) ih

theorem below_cancel_iff {j : TokenId} : (t.cancel k).Below j id ↔ t.Below j id := by
  refine ⟨fun hbelow => ?_, Below.later (t.later_cancel k)⟩
  induction hbelow with
  | self => exact .self
  | child hn hp _ ih =>
    rw [nodes_cancel, Option.map_eq_some_iff] at hn
    obtain ⟨n', hn', rfl⟩ := hn
    refine .child hn' ?_ ih
    split at hp <;> exact hp

/-- A token that is canceled is canceled, if it is there. -/
theorem isCanceled_cancel_self (hk : k < t.nodes.length) : (t.cancel k).isCanceled k := by
  have hnode : (t.cancel k).nodes[k]? = some { t.nodes[k] with canceled := true } := by
    simp [nodes_cancel, hk]
  simp [isCanceled, canceledWithin, hnode]

/-- **Canceling a token reaches the tokens below it and no others.** -/
theorem isCanceled_cancel (h : t.Ordered) (hk : k < t.nodes.length) :
    (t.cancel k).isCanceled id ↔ t.isCanceled id ∨ t.Below k id := by
  rw [isCanceled_iff (ordered_cancel h k), isCanceled_iff h]
  simp only [below_cancel_iff]
  constructor
  · rintro ⟨j, n, hbelow, hn, hc⟩
    by_cases hj : k = j
    · exact .inr (hj ▸ hbelow)
    · exact .inl ⟨j, n, hbelow, by rwa [nodes_cancel_of_ne hj] at hn, hc⟩
  · rintro (⟨j, n, hbelow, hn, hc⟩ | hbelow)
    · obtain ⟨n', hn', -, hc'⟩ := t.later_cancel k j n hn
      exact ⟨j, n', hbelow, hn', hc' hc⟩
    · exact ⟨k, { t.nodes[k] with canceled := true }, hbelow, by simp [nodes_cancel, hk], rfl⟩

end TokenTree

end AgentDesk
