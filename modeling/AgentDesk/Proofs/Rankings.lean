import AgentDesk.Proofs.Paths
import Mathlib.Data.List.Perm.Basic
/-!
# Rankings

A list that shows the first things of a set in an order, and tells whether there are more of them,
is determined by the set: it does not matter in which order or how often the things were found.
Sorting what was found makes such a list if no two things in it are equal by the order.

Paths are ordered step by step. The order is total, and no two paths are equal by it.

## Main definitions

* `Ranking` — a list of the first things of a set in an order.
-/

namespace AgentDesk

deriving instance ReflBEq, LawfulBEq for Path

/-! ## The order of paths -/

namespace Path

/-- Where a step stands among the kinds of steps. -/
def rank : PathStep → Nat
  | .here => 0
  | .up => 1
  | .name _ => 2

/-- The name of a step that has one. -/
def label : PathStep → String
  | .name n => n
  | _ => ""

theorem compareSteps_eq : compareSteps = compareLex (compareOn rank) (compareOn label) := by
  funext a b
  cases a <;> cases b <;> simp [compareSteps, compareLex, compareOn, rank, label] <;> rfl

instance : Ord PathStep := ⟨compareSteps⟩

instance : Std.TransOrd PathStep := by
  change Std.TransCmp compareSteps
  rw [compareSteps_eq]
  infer_instance

instance : Std.LawfulEqOrd PathStep where
  eq_of_compare {a b} h := by
    change compareSteps a b = .eq at h
    cases a <;> cases b <;> simp_all [compareSteps]

theorem compareLists_eq (as bs : List PathStep) : compareLists as bs = compare as bs := by
  induction as generalizing bs with
  | nil => cases bs <;> rfl
  | cons a as ih =>
    cases bs with
    | nil => rfl
    | cons b bs => rw [compareLists, ih, List.compare_cons_cons]; rfl

theorem order_eq : order = compareLex (compareOn fun p => !p.absolute) (compareOn steps) := by
  funext p q
  rw [order, compareLists_eq]
  rfl

instance : Ord Path := ⟨order⟩

instance : Std.TransOrd Path := by
  change Std.TransCmp order
  rw [order_eq]
  infer_instance

@[simp] theorem order_self (p : Path) : p.order p = .eq :=
  (Std.ReflOrd.compare_self : compare p p = .eq)

/-- No two paths are equal by the order. -/
theorem order_eq_eq_iff {p q : Path} : p.order q = .eq ↔ p = q := by
  constructor
  · intro h
    rw [order_eq, compareLex_eq_eq] at h
    have habsolute : (!p.absolute) = !q.absolute := Std.LawfulEqOrd.eq_of_compare h.1
    have hsteps : p.steps = q.steps := Std.LawfulEqOrd.eq_of_compare h.2
    cases p
    cases q
    simp_all
  · rintro rfl
    exact order_self p

/-- Two paths that each precede the other, or equal it by the order, are the same. -/
theorem eq_of_isLE {p q : Path} (h : (p.order q).isLE) (h' : (q.order p).isLE) : p = q :=
  order_eq_eq_iff.mp ((Std.OrientedCmp.isLE_antisymm h h' : compare p q = .eq))

end Path

/-! ## Orders by several things -/

/-- The order by a number and then by something else, as a test. -/
theorem isLE_compare_then (m n : Nat) (o : Ordering) :
    ((compare m n).then o).isLE = (decide (m < n) || (n == m && o.isLE)) := by
  rcases Nat.lt_trichotomy m n with h | rfl | h
  · simp [Nat.compare_eq_lt.mpr h, h]
  · simp
  · simp [Nat.compare_eq_gt.mpr h, Nat.ne_of_lt h, Nat.not_lt_of_gt h]

/-! ## The first things of a set -/

/-- A list shows the first things of a set in an order, as many as may be shown, and it is told
whether there are more. -/
def Ranking {α : Type} (cmp : α → α → Ordering) (S : α → Prop) (limit : Nat) (r : List α × Bool) :
    Prop :=
  ∃ all : List α, all.Pairwise (fun a b => cmp a b = .lt) ∧ (∀ a, a ∈ all ↔ S a) ∧
    r = (all.take limit, decide (limit < all.length))

namespace Ranking

variable {α : Type} {cmp : α → α → Ordering} {S S' : α → Prop} {limit : Nat} {r r' : List α × Bool}

/-- **The set determines what is shown of it.** -/
theorem unique [Std.TransCmp cmp] (h : Ranking cmp S limit r) (h' : Ranking cmp S limit r') :
    r = r' := by
  obtain ⟨all, hsorted, hmem, rfl⟩ := h
  obtain ⟨all', hsorted', hmem', rfl⟩ := h'
  have hnodup {l : List α} (hl : l.Pairwise fun a b => cmp a b = .lt) : l.Nodup :=
    hl.imp fun hab heq => by simp [heq, Std.ReflCmp.compare_self] at hab
  have hperm : all.Perm all' := (List.perm_ext_iff_of_nodup (hnodup hsorted) (hnodup hsorted')).mpr
    fun a => (hmem a).trans (hmem' a).symm
  have hasymm (a b : α) (hab : cmp a b = .lt) (hba : cmp b a = .lt) : a = b :=
    absurd hba (Std.OrientedCmp.not_lt_of_lt hab)
  rw [hperm.eq_of_pairwise (fun a b _ _ => hasymm a b) hsorted hsorted']

theorem congr (hS : ∀ a, S a ↔ S' a) (h : Ranking cmp S limit r) : Ranking cmp S' limit r := by
  obtain ⟨all, hsorted, hmem, hr⟩ := h
  exact ⟨all, hsorted, fun a => (hmem a).trans (hS a), hr⟩

/-- **Sorted lists show the first things**, if no two of the things are equal by the order. -/
theorem of_mergeSort [Std.TransCmp cmp] {le : α → α → Bool} (hle : ∀ a b, le a b = (cmp a b).isLE)
    {found : List α} (hfound : found.Pairwise fun a b => cmp a b ≠ .eq) :
    Ranking cmp (· ∈ found) limit
      ((found.mergeSort le).take limit, decide (limit < found.length)) := by
  have hsorted : (found.mergeSort le).Pairwise fun a b => le a b := by
    refine List.pairwise_mergeSort (fun a b c hab hbc => ?_) (fun a b => ?_) found
    · rw [hle] at *
      exact Std.TransCmp.isLE_trans hab hbc
    · have hswap : cmp b a = (cmp a b).swap := Std.OrientedCmp.eq_swap
      rw [hle, hle, hswap]
      cases cmp a b <;> rfl
  have hdistinct : (found.mergeSort le).Pairwise fun a b => cmp a b ≠ .eq :=
    ((List.mergeSort_perm found le).pairwise_iff fun h heq => h (Std.OrientedCmp.eq_symm heq)).mpr
      hfound
  refine ⟨found.mergeSort le, ?_, fun a => List.mem_mergeSort, by rw [List.length_mergeSort]⟩
  refine hsorted.imp₂ (fun a b hab hne => ?_) hdistinct
  rw [hle] at hab
  cases hcmp : cmp a b
  · rfl
  · exact absurd hcmp hne
  · simp [hcmp] at hab

end Ranking

end AgentDesk
