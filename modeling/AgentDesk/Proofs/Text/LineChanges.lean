import AgentDesk.Proofs.Tables
import AgentDesk.Text.LineChanges
import Mathlib.Algebra.BigOperators.Group.Finset.Basic
import Mathlib.Algebra.Ring.Nat
/-!
# Lines as multisets

The balance of two texts knows for each line how much more often it occurs in the new one. What is
reported as added and removed is the size of the two differences of their lines as multisets.
-/

namespace AgentDesk.Text

variable {balance : Table String Int}

/-- How much more often a line occurs, by a balance. -/
def surplus (balance : Table String Int) (line : String) : Int := (Table.get? line balance).getD 0

theorem surplus_tally (n : Int) (balance : Table String Int) (line l : String) :
    surplus (tally n balance line) l = surplus balance l + if l = line then n else 0 := by
  rw [surplus, tally]
  by_cases hl : l = line
  · simp [hl, surplus]
  · simp [hl, surplus, Table.get?_put_of_ne hl]

theorem surplus_foldl_tally (n : Int) (ls : List String) (balance : Table String Int) (l : String) :
    surplus (ls.foldl (tally n) balance) l = surplus balance l + n * ls.count l := by
  induction ls generalizing balance with
  | nil => simp
  | cons line ls ih =>
    rw [List.foldl_cons, ih, surplus_tally]
    by_cases hl : l = line
    · rw [if_pos hl, hl, List.count_cons_self, Int.natCast_succ, Int.mul_add]
      omega
    · rw [if_neg hl, List.count_cons_of_ne (Ne.symm hl), Int.add_zero]

theorem nodup_keys_foldl_tally (n : Int) (ls : List String) (h : balance.keys.Nodup) :
    (ls.foldl (tally n) balance).keys.Nodup := by
  induction ls generalizing balance with
  | nil => exact h
  | cons line ls ih => exact ih (Table.nodup_keys_put line _ h)

/-- **The balance of a line** is the difference of how often it occurs. -/
theorem surplus_lineBalance (old new l : String) :
    surplus (lineBalance old new) l = (lines new).count l - (lines old).count l := by
  rw [lineBalance, surplus_foldl_tally, surplus_foldl_tally]
  simp only [surplus, Table.get?, Option.getD_none]
  omega

theorem nodup_keys_lineBalance (old new : String) : (lineBalance old new).keys.Nodup :=
  nodup_keys_foldl_tally 1 _ (nodup_keys_foldl_tally (-1) _ List.nodup_nil)

/-- A line that is not in a balance occurs as often in both texts. -/
theorem surplus_eq_zero (h : l ∉ balance.keys) : surplus balance l = 0 := by
  rw [surplus, Table.get?_eq_none_iff.mpr h, Option.getD_none]

/-- What is added up over the entries of a balance. -/
theorem foldl_changes (balance : Table String Int) (added removed : Nat) :
    balance.foldl (fun (added, removed) (_, n) => (added + n.toNat, removed + (-n).toNat))
        (added, removed) =
      (added + (balance.map fun e => e.2.toNat).sum,
        removed + (balance.map fun e => (-e.2).toNat).sum) := by
  induction balance generalizing added removed with
  | nil => rfl
  | cons e balance ih => simp [ih, Nat.add_assoc]

/-- The sum over the entries is the sum over all lines that occur. -/
theorem sum_entries (f : Int → Nat) (hnodup : balance.keys.Nodup) :
    (balance.map fun e => f e.2).sum = ∑ l ∈ balance.keys.toFinset, f (surplus balance l) := by
  rw [List.sum_toFinset _ hnodup, Table.keys, List.map_map]
  refine congrArg List.sum (List.map_congr_left fun e he => ?_)
  simp [surplus, Table.get?_of_mem hnodup he]

/-- The size of a difference of multisets of lines, from a balance of their counts. -/
theorem sum_toNat_eq_card {a b : Multiset String} (hnodup : balance.keys.Nodup) (f : Int → Nat)
    (hcount : ∀ l, f (surplus balance l) = (a - b).count l) (hzero : f 0 = 0) :
    (balance.map fun e => f e.2).sum = (a - b).card := by
  -- A line outside the balance occurs as often in both texts, so it is not in the difference.
  have hkeys : ∀ l ∈ a - b, l ∈ balance.keys.toFinset := by
    intro l hl
    rw [List.mem_toFinset]
    by_contra hnot
    have hpos := Multiset.count_pos.mpr hl
    rw [← hcount, surplus_eq_zero hnot, hzero] at hpos
    exact Nat.lt_irrefl 0 hpos
  rw [sum_entries f hnodup, ← Multiset.sum_count_eq_card hkeys]
  exact Finset.sum_congr rfl fun l _ => hcount l

/-- **What is added and removed are the lines of one text without those of the other**, as
multisets. -/
theorem lineChanges_eq (old new : String) : lineChanges old new =
    (((lines new : Multiset String) - (lines old : Multiset String)).card,
      ((lines old : Multiset String) - (lines new : Multiset String)).card) := by
  have hnodup := nodup_keys_lineBalance old new
  rw [lineChanges, foldl_changes, Nat.zero_add, Nat.zero_add,
    sum_toNat_eq_card hnodup Int.toNat (fun l => ?_) rfl,
    sum_toNat_eq_card hnodup (fun n => (-n).toNat) (fun l => ?_) rfl]
  · rw [surplus_lineBalance, Multiset.count_sub, Multiset.coe_count, Multiset.coe_count]
    omega
  · rw [surplus_lineBalance, Multiset.count_sub, Multiset.coe_count, Multiset.coe_count]
    omega

/-- The order of the lines does not matter. -/
example : lineChanges "a\nb\nb\n" "b\r\nc\na" = (1, 1) := by decide

end AgentDesk.Text
