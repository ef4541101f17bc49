import AgentDesk.Timestamp
import Mathlib.Data.List.Basic
import Mathlib.Tactic.Ring
import Mathlib.Tactic.Positivity
/-!
# Written numbers

A run of decimal digits has a value, and the digits that a natural number is written with have that
number as their value. Behind a point, runs of digits are in the order of the fractions that they
stand for.

## Main definitions

* `Digits` — a run of decimal digits.
* `digitsValue` — its value.
-/

namespace AgentDesk

/-- A run of decimal digits. -/
def Digits (ds : List Char) : Prop := ∀ c ∈ ds, c.isDigit

/-- The value of a run of decimal digits. -/
def digitsValue (ds : List Char) : Nat := ds.foldl (fun n c => n * 10 + (c.toNat - 48)) 0

variable {c d : Char} {ds es u v : List Char} {n m w : Nat}

/-! ## Digits -/

theorem isDigit_iff : c.isDigit ↔ 48 ≤ c.toNat ∧ c.toNat ≤ 57 := by
  simp only [Char.isDigit, Bool.and_eq_true, decide_eq_true_eq]
  exact Iff.rfl

theorem char_lt_iff : c < d ↔ c.toNat < d.toNat := Iff.rfl

theorem digits_cons : Digits (c :: ds) ↔ c.isDigit ∧ Digits ds := List.forall_mem_cons

theorem digits_append : Digits (ds ++ es) ↔ Digits ds ∧ Digits es := List.forall_mem_append

theorem digits_replicate (n : Nat) : Digits (List.replicate n '0') := by
  intro c hc
  rw [List.eq_of_mem_replicate hc]
  rfl

theorem digits_toDigits (n : Nat) : Digits (Nat.toDigits 10 n) :=
  fun _ hc => Nat.isDigit_of_mem_toDigits (by decide) (by decide) hc

theorem digitsValue_foldl (start : Nat) (ds : List Char) :
    ds.foldl (fun n c => n * 10 + (c.toNat - 48)) start =
      start * 10 ^ ds.length + digitsValue ds := by
  induction ds generalizing start with
  | nil => simp [digitsValue]
  | cons c ds ih =>
    rw [digitsValue, List.foldl_cons, List.foldl_cons, ih, ih (0 * 10 + (c.toNat - 48))]
    simp only [List.length_cons, pow_succ]
    ring

theorem digitsValue_cons (c : Char) (ds : List Char) :
    digitsValue (c :: ds) = (c.toNat - 48) * 10 ^ ds.length + digitsValue ds := by
  rw [digitsValue, List.foldl_cons, digitsValue_foldl]
  simp

theorem digitsValue_append (ds es : List Char) :
    digitsValue (ds ++ es) = digitsValue ds * 10 ^ es.length + digitsValue es := by
  rw [digitsValue, List.foldl_append, digitsValue_foldl]
  rfl

theorem digitsValue_replicate (n : Nat) : digitsValue (List.replicate n '0') = 0 := by
  induction n with
  | zero => rfl
  | succ n ih => simp [List.replicate_succ, digitsValue_cons, ih]

theorem digitsValue_toDigits (n : Nat) : digitsValue (Nat.toDigits 10 n) = n := by
  have h := Nat.ofDigitChars_ten_toDigits (n := n)
  simpa [digitsValue, Nat.ofDigitChars, Nat.mul_comm] using h

theorem digitsValue_lt (h : Digits ds) : digitsValue ds < 10 ^ ds.length := by
  induction ds with
  | nil => simp [digitsValue]
  | cons c ds ih =>
    obtain ⟨hc, hds⟩ := digits_cons.mp h
    have hrest := ih hds
    have hdigit := (isDigit_iff.mp hc).2
    rw [digitsValue_cons, List.length_cons, pow_succ]
    have hhead : (c.toNat - 48) * 10 ^ ds.length ≤ 9 * 10 ^ ds.length :=
      Nat.mul_le_mul_right _ (by omega)
    omega

/-- A leading digit counts for as much as the width says, however many digits follow it. -/
theorem scaled_cons (h : ds.length ≤ w) :
    digitsValue (c :: ds) * 10 ^ (w + 1 - (c :: ds).length) =
      (c.toNat - 48) * 10 ^ w + digitsValue ds * 10 ^ (w - ds.length) := by
  have hwidth : w + 1 - (c :: ds).length = w - ds.length := by simp
  have hpow : 10 ^ ds.length * 10 ^ (w - ds.length) = 10 ^ w := by
    rw [← Nat.pow_add, Nat.add_sub_cancel' h]
  rw [digitsValue_cons, hwidth, Nat.add_mul, Nat.mul_assoc, hpow]

theorem scaled_lt (hd : Digits ds) (h : ds.length ≤ w) :
    digitsValue ds * 10 ^ (w - ds.length) < 10 ^ w := by
  calc digitsValue ds * 10 ^ (w - ds.length)
      < 10 ^ ds.length * 10 ^ (w - ds.length) :=
        Nat.mul_lt_mul_of_pos_right (digitsValue_lt hd) (by positivity)
    _ = 10 ^ w := by rw [← Nat.pow_add, Nat.add_sub_cancel' h]

/-- Runs are in the order of the fractions that they are digits of. What follows a run matters only
where it is compared with a digit. -/
theorem append_lt_append (hd : Digits ds) (he : Digits es) (hdw : ds.length ≤ w)
    (hew : es.length ≤ w)
    (h : digitsValue ds * 10 ^ (w - ds.length) < digitsValue es * 10 ^ (w - es.length))
    (hu : ds.length = es.length ∨ ∀ c cs, c.isDigit → u < c :: cs) : ds ++ u < es ++ v := by
  induction ds generalizing es w with
  | nil =>
    cases es with
    | nil => exact absurd h (lt_irrefl _)
    | cons e es =>
      have hbelow := hu.resolve_left (by simp)
      exact hbelow e (es ++ v) (digits_cons.mp he).1
  | cons c ds ih =>
    cases es with
    | nil => simp [digitsValue] at h
    | cons e es =>
      obtain ⟨hc, hds⟩ := digits_cons.mp hd
      obtain ⟨he', hes⟩ := digits_cons.mp he
      obtain _ | w := w
      · simp at hdw
      simp only [List.length_cons, Nat.add_le_add_iff_right] at hdw hew
      -- Both fractions are a multiple of the same power of ten, plus less than that power.
      rw [scaled_cons hdw, scaled_cons hew] at h
      have hbound := scaled_lt hes hew
      have hc' := isDigit_iff.mp hc
      have he'' := isDigit_iff.mp he'
      rw [List.cons_append, List.cons_append, List.cons_lt_cons_iff]
      rcases Nat.lt_trichotomy c.toNat e.toNat with hlt | heq | hgt
      · exact .inl hlt
      · obtain rfl : c = e := Char.toNat_inj.mp heq
        exact .inr ⟨rfl, ih hds hes hdw hew (by omega) (hu.imp_left Nat.succ.inj)⟩
      · have hstep : (e.toNat - 48 + 1) * 10 ^ w ≤ (c.toNat - 48) * 10 ^ w :=
          Nat.mul_le_mul_right _ (by omega)
        rw [Nat.add_mul] at hstep
        omega

/-! ## Numbers with leading zeros -/

open Timestamp (padded)

theorem padded_eq (w n : Nat) : padded w n =
    List.replicate (w - (Nat.toDigits 10 n).length) '0' ++ Nat.toDigits 10 n := by
  rw [padded, Nat.toString_eq_ofList_toDigits, String.toList_ofList]

theorem digits_padded (w n : Nat) : Digits (padded w n) := by
  rw [padded_eq]
  exact digits_append.mpr ⟨digits_replicate _, digits_toDigits n⟩

theorem digitsValue_padded (w n : Nat) : digitsValue (padded w n) = n := by
  rw [padded_eq, digitsValue_append, digitsValue_replicate, digitsValue_toDigits]
  omega

theorem length_padded (hw : 0 < w) (h : n < 10 ^ w) : (padded w n).length = w := by
  have hlen := (Nat.length_toDigits_le_iff (b := 10) (by decide) hw).mpr h
  rw [padded_eq]
  simp
  omega

theorem padded_append_lt (hw : 0 < w) (hm : m < 10 ^ w) (h : n < m ∨ n = m ∧ u < v) :
    padded w n ++ u < padded w m ++ v := by
  rcases h with h | ⟨rfl, h⟩
  · have hn := length_padded hw (h.trans hm)
    have hm := length_padded hw hm
    refine append_lt_append (digits_padded w n) (digits_padded w m) hn.le hm.le ?_
      (.inl (hn.trans hm.symm))
    simpa [hn, hm, digitsValue_padded] using h
  · exact List.append_left_lt h

end AgentDesk
