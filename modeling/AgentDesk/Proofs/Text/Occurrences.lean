import AgentDesk.Text.Pieces
import Mathlib.Data.List.Basic
import Mathlib.Data.String.Basic
/-!
# Where one text occurs in another

A text may occur in another at positions that overlap. Cutting finds the first of them; replacing
and counting go on behind what was cut, so they pass over every occurrence that overlaps the one
before it.

## Main definitions

* `OccursAt` — a text stands at a position of another.
* `Tangled` — a text occurs more than once, but all its occurrences overlap.
-/

namespace AgentDesk.Text

variable {p q s a b : List Char}

/-- A text stands at a position of another. -/
def OccursAt (p s : List Char) (i : Nat) : Prop := p <+: s.drop i

instance (p s : List Char) (i : Nat) : Decidable (OccursAt p s i) :=
  inferInstanceAs (Decidable (p <+: s.drop i))

@[simp] theorem occursAt_zero : OccursAt p s 0 ↔ p <+: s := by rw [OccursAt, List.drop_zero]

@[simp] theorem occursAt_cons {c : Char} {i : Nat} :
    OccursAt p (c :: s) (i + 1) ↔ OccursAt p s i := by
  rw [OccursAt, List.drop_succ_cons, OccursAt]

theorem occursAt_length_append : OccursAt p (a ++ s) a.length ↔ p <+: s := by
  rw [OccursAt, List.drop_left]

/-- Behind a text the positions are those of what follows. -/
theorem occursAt_append_add {i : Nat} : OccursAt p (a ++ s) (a.length + i) ↔ OccursAt p s i := by
  rw [OccursAt, ← List.drop_drop, List.drop_left, OccursAt]

/-! ## Cutting at the first occurrence -/

theorem dropPrefix?_eq_some_iff {α : Type} [BEq α] [LawfulBEq α] {p s r : List α} :
    dropPrefix? p s = some r ↔ s = p ++ r := by
  induction p generalizing s with
  | nil => simp [dropPrefix?, eq_comm]
  | cons c p ih =>
    cases s with
    | nil => simp [dropPrefix?]
    | cons d s =>
      by_cases hcd : c = d
      · simp [dropPrefix?, hcd, ih]
      · simp [dropPrefix?, hcd, Ne.symm hcd]

theorem dropPrefix?_eq_none_iff : dropPrefix? p s = none ↔ ¬p <+: s := by
  rw [Option.eq_none_iff_forall_ne_some]
  simp only [ne_eq, dropPrefix?_eq_some_iff]
  exact ⟨fun h ⟨r, hr⟩ => h r hr.symm, fun h r hr => h ⟨r, hr.symm⟩⟩

theorem startsWith_iff : startsWith p s = true ↔ p <+: s := by
  rw [startsWith, Option.isSome_iff_ne_none, ne_eq, dropPrefix?_eq_none_iff, not_not]

/-- A beginning that is not the whole text takes fewer bytes. -/
theorem utf8Len_lt_of_prefix (h : p <+: s) (hne : p ≠ s) : String.utf8Len p < String.utf8Len s := by
  obtain ⟨rest, rfl⟩ := h
  cases rest with
  | nil => simp at hne
  | cons c rest =>
    have hpos := Char.utf8Size_pos c
    rw [String.utf8Len_append, String.utf8Len_cons]
    omega

/-- The text already passed is put back in front of what is found. -/
theorem cutFrom_eq (p passed s : List Char) :
    cutFrom p passed s = (cutAt? p s).map fun found => (passed.reverse ++ found.1, found.2) := by
  induction s generalizing passed with
  | nil => by_cases hp : p.isEmpty <;> simp [cutAt?, cutFrom, hp]
  | cons c s ih =>
    rw [cutAt?, cutFrom, cutFrom]
    cases dropPrefix? p (c :: s) with
    | some rest => simp
    | none =>
      simp only [ih (c :: passed), ih [c], Option.map_map]
      congr 1
      funext found
      simp

theorem cutAt?_append (p r : List Char) : cutAt? p (p ++ r) = some ([], r) := by
  cases h : p ++ r with
  | nil => simp_all [cutAt?, cutFrom]
  | cons c s => rw [cutAt?, cutFrom, dropPrefix?_eq_some_iff.mpr h.symm]; rfl

theorem cutAt?_cons {c : Char} (h : ¬p <+: c :: s) :
    cutAt? p (c :: s) = (cutAt? p s).map fun found => (c :: found.1, found.2) := by
  rw [cutAt?, cutFrom, dropPrefix?_eq_none_iff.mpr h]
  exact cutFrom_eq p [c] s

theorem cutAt?_nil (h : p ≠ []) : cutAt? p [] = none := by simp [cutAt?, cutFrom, h]

/-- **A cut is made at the first occurrence**: it leaves the text in front of it and the text behind
it. -/
theorem eq_of_cutAt? (h : cutAt? p s = some (a, b)) :
    s = a ++ p ++ b ∧ ∀ i, OccursAt p s i → a.length ≤ i := by
  induction s generalizing a with
  | nil =>
    by_cases hp : p = []
    · subst hp
      obtain ⟨rfl, rfl⟩ : a = [] ∧ b = [] := by simpa [cutAt?, cutFrom, eq_comm] using h
      exact ⟨rfl, fun i _ => Nat.zero_le i⟩
    · rw [cutAt?_nil hp] at h
      cases h
  | cons c s ih =>
    by_cases hfront : p <+: c :: s
    · obtain ⟨r, hr⟩ := hfront
      rw [← hr, cutAt?_append] at h
      obtain ⟨rfl, rfl⟩ : a = [] ∧ b = r := by simpa [eq_comm] using h
      exact ⟨hr.symm, fun i _ => Nat.zero_le i⟩
    · rw [cutAt?_cons hfront] at h
      obtain ⟨⟨a', b'⟩, hcut, heq⟩ := Option.map_eq_some_iff.mp h
      obtain ⟨rfl, rfl⟩ : c :: a' = a ∧ b' = b := by simpa using heq
      obtain ⟨hs, hfirst⟩ := ih hcut
      refine ⟨by rw [hs]; simp, fun i hi => ?_⟩
      cases i with
      | zero => exact absurd (occursAt_zero.mp hi) hfront
      | succ i => exact Nat.succ_le_succ (hfirst i (occursAt_cons.mp hi))

/-- No cut is made exactly if there is no occurrence. -/
theorem cutAt?_eq_none_iff : cutAt? p s = none ↔ ∀ i, ¬OccursAt p s i := by
  constructor
  · intro h i hi
    induction s generalizing i with
    | nil =>
      have hp : p = [] := List.prefix_nil.mp (by simpa [OccursAt] using hi)
      simp [hp, cutAt?, cutFrom] at h
    | cons c s ih =>
      have hfront : ¬p <+: c :: s := by
        rintro ⟨r, hr⟩
        rw [← hr, cutAt?_append] at h
        cases h
      rw [cutAt?_cons hfront, Option.map_eq_none_iff] at h
      cases i with
      | zero => exact hfront (occursAt_zero.mp hi)
      | succ i => exact ih h i (occursAt_cons.mp hi)
  · intro h
    refine Option.eq_none_iff_forall_ne_some.mpr fun ⟨a, b⟩ hcut => h a.length ?_
    rw [(eq_of_cutAt? hcut).1, List.append_assoc, occursAt_length_append]
    exact List.prefix_append p b

theorem occursAt_of_cutAt? (h : cutAt? p s = some (a, b)) : OccursAt p s a.length := by
  rw [(eq_of_cutAt? h).1, List.append_assoc, occursAt_length_append]
  exact List.prefix_append p b

/-! ## Cutting at all occurrences -/

/-- An induction that goes on behind the first occurrence. -/
theorem cut_induction {motive : List Char → Prop} (hp : p ≠ [])
    (none : ∀ s, cutAt? p s = none → motive s)
    (some : ∀ s a b, cutAt? p s = some (a, b) → motive b → motive s) (s : List Char) :
    motive s := by
  induction hn : s.length using Nat.strongRecOn generalizing s with
  | ind n ih =>
    cases hcut : cutAt? p s with
    | none => exact none s hcut
    | some found =>
      obtain ⟨a, b⟩ := found
      refine some s a b hcut (ih b.length ?_ b rfl)
      have hlen := congrArg List.length (eq_of_cutAt? hcut).1
      have := List.length_pos_iff.mpr hp
      simp only [List.length_append] at hlen
      omega

theorem piecesFrom_eq (n : Nat) (found : List (List Char)) (s : List Char) :
    piecesFrom p n found s = found.reverse ++ piecesFrom p n [] s := by
  induction n generalizing found s with
  | zero => simp [piecesFrom]
  | succ n ih =>
    rw [piecesFrom, piecesFrom]
    cases cutAt? p s with
    | none => simp
    | some cut =>
      dsimp only
      rw [ih (cut.1 :: found), ih [cut.1]]
      simp

theorem piecesFrom_of_none (h : cutAt? p s = none) (n : Nat) : piecesFrom p n [] s = [s] := by
  cases n <;> simp [piecesFrom, h]

/-- The length of a text is fuel enough to cut it at all occurrences. -/
theorem piecesFrom_fuel (hp : p ≠ []) {n : Nat} (hn : s.length ≤ n) :
    piecesFrom p n [] s = piecesFrom p s.length [] s := by
  induction s using cut_induction hp generalizing n with
  | none s hcut => rw [piecesFrom_of_none hcut, piecesFrom_of_none hcut]
  | some s a b hcut ih =>
    have hlen := congrArg List.length (eq_of_cutAt? hcut).1
    have hpos := List.length_pos_iff.mpr hp
    simp only [List.length_append] at hlen
    obtain ⟨k, hk⟩ := Nat.exists_eq_succ_of_ne_zero (show s.length ≠ 0 by omega)
    obtain ⟨m, rfl⟩ := Nat.exists_eq_succ_of_ne_zero (show n ≠ 0 by omega)
    rw [hk, piecesFrom, piecesFrom, hcut]
    dsimp only
    rw [piecesFrom_eq, piecesFrom_eq k, ih (n := m) (by omega), ih (n := k) (by omega)]

theorem piecesAt_of_none (h : cutAt? p s = none) : piecesAt p s = [s] := by
  rw [piecesAt, piecesFrom_of_none h, ite_self]

theorem piecesAt_of_cut (hp : p ≠ []) (h : cutAt? p s = some (a, b)) :
    piecesAt p s = a :: piecesAt p b := by
  have hlen := congrArg List.length (eq_of_cutAt? h).1
  have hpos := List.length_pos_iff.mpr hp
  simp only [List.length_append] at hlen
  obtain ⟨k, hk⟩ := Nat.exists_eq_succ_of_ne_zero (show s.length ≠ 0 by omega)
  have hempty : p.isEmpty = false := by simpa using hp
  rw [piecesAt, piecesAt, hempty, hk, piecesFrom, h]
  simp only [Bool.false_eq_true, if_false]
  rw [piecesFrom_eq, piecesFrom_fuel hp (by omega)]
  rfl

theorem piecesAt_ne_nil (hp : p ≠ []) (s : List Char) : piecesAt p s ≠ [] := by
  cases h : cutAt? p s with
  | none => simp [piecesAt_of_none h]
  | some cut => simp [piecesAt_of_cut hp h]

/-! ## Counting and replacing -/

theorem countText_of_none (h : cutAt? p s = none) : countText p s = 0 := by
  rw [countText, piecesAt_of_none h]
  rfl

theorem countText_of_cut (hp : p ≠ []) (h : cutAt? p s = some (a, b)) :
    countText p s = countText p b + 1 := by
  have hpos := List.length_pos_iff.mpr (piecesAt_ne_nil hp b)
  rw [countText, countText, piecesAt_of_cut hp h, List.length_cons]
  omega

theorem replaceText_of_none (h : cutAt? p s = none) : replaceText p q s = s := by
  rw [replaceText, piecesAt_of_none h]
  simp [List.intercalate]

theorem replaceText_of_cut (hp : p ≠ []) (h : cutAt? p s = some (a, b)) :
    replaceText p q s = a ++ q ++ replaceText p q b := by
  obtain ⟨w, ws, hws⟩ := List.exists_cons_of_ne_nil (piecesAt_ne_nil hp b)
  rw [replaceText, replaceText, piecesAt_of_cut hp h, hws]
  simp [List.intercalate]

theorem countText_eq_zero_iff (hp : p ≠ []) : countText p s = 0 ↔ ∀ i, ¬OccursAt p s i := by
  rw [← cutAt?_eq_none_iff]
  constructor
  · intro h
    cases hcut : cutAt? p s with
    | none => rfl
    | some cut =>
      rw [countText_of_cut hp hcut] at h
      cases h
  · exact countText_of_none

/-- A replacement at the front, and then behind it. -/
theorem replaceText_append (hp : p ≠ []) (q r : List Char) :
    replaceText p q (p ++ r) = q ++ replaceText p q r :=
  replaceText_of_cut hp (cutAt?_append p r)

/-- A character that starts no occurrence is left alone. -/
theorem replaceText_cons (hp : p ≠ []) {c : Char} (h : ¬p <+: c :: s) :
    replaceText p q (c :: s) = c :: replaceText p q s := by
  cases hcut : cutAt? p s with
  | none =>
    have hnone : cutAt? p (c :: s) = none := by rw [cutAt?_cons h, hcut, Option.map_none]
    rw [replaceText_of_none hnone, replaceText_of_none hcut]
  | some cut =>
    have hsome : cutAt? p (c :: s) = some (c :: cut.1, cut.2) := by
      rw [cutAt?_cons h, hcut, Option.map_some]
    rw [replaceText_of_cut hp hsome, replaceText_of_cut hp hcut]
    rfl

@[simp] theorem replaceText_nil (hp : p ≠ []) : replaceText p q [] = [] :=
  replaceText_of_none (cutAt?_nil hp)

/-- What is replaced decides how much the text grows. -/
theorem length_replaceText (hp : p ≠ []) (q s : List Char) :
    (replaceText p q s).length + countText p s * p.length =
      s.length + countText p s * q.length := by
  induction s using cut_induction hp with
  | none s hcut => rw [replaceText_of_none hcut, countText_of_none hcut]; simp
  | some s a b hcut ih =>
    have hlen := congrArg List.length (eq_of_cutAt? hcut).1
    simp only [List.length_append] at hlen
    rw [replaceText_of_cut hp hcut, countText_of_cut hp hcut]
    simp only [List.length_append, Nat.add_mul, Nat.one_mul]
    omega

/-- **Replacing a text that occurs by another one changes the text around it.** -/
theorem replaceText_ne (hp : p ≠ []) (hpq : p ≠ q) (hcount : countText p s ≠ 0) :
    replaceText p q s ≠ s := by
  intro hsame
  have hgrow := length_replaceText hp q s
  rw [hsame, Nat.add_left_cancel_iff] at hgrow
  have hlen : p.length = q.length :=
    Nat.eq_of_mul_eq_mul_left (Nat.pos_of_ne_zero hcount) hgrow
  cases hcut : cutAt? p s with
  | none => exact hcount (countText_of_none hcut)
  | some cut =>
    rw [replaceText_of_cut hp hcut, (eq_of_cutAt? hcut).1, List.append_assoc,
      List.append_assoc] at hsame
    have htail := List.append_cancel_left hsame
    exact hpq (List.append_inj_left htail hlen.symm).symm

@[simp] theorem toList_replace (p q s : String) :
    (replace p q s).toList = replaceText p.toList q.toList s.toList := by
  rw [replace, String.toList_ofList]

/-! ## Occurrences that overlap -/

/-- Behind the first occurrence, the positions are those of the text that follows. -/
theorem occursAt_behind (h : cutAt? p s = some (a, b)) {i : Nat} :
    OccursAt p s (a.length + p.length + i) ↔ OccursAt p b i := by
  rw [(eq_of_cutAt? h).1, ← List.length_append, occursAt_append_add]

/-- **A text is counted once exactly if it occurs and any two of its occurrences overlap.** -/
theorem countText_eq_one_iff (hp : p ≠ []) : countText p s = 1 ↔
    (∃ i, OccursAt p s i) ∧ ∀ i j, OccursAt p s i → OccursAt p s j → j < i + p.length := by
  cases hcut : cutAt? p s with
  | none =>
    have hnowhere := cutAt?_eq_none_iff.mp hcut
    simp [countText_of_none hcut, hnowhere]
  | some cut =>
    obtain ⟨a, b⟩ := cut
    have hfirst := (eq_of_cutAt? hcut).2
    rw [countText_of_cut hp hcut, Nat.succ_inj, countText_eq_zero_iff hp]
    constructor
    · refine fun hrest => ⟨⟨_, occursAt_of_cutAt? hcut⟩, fun i j hi hj => ?_⟩
      by_contra hle
      have := hfirst i hi
      obtain ⟨k, rfl⟩ := Nat.exists_eq_add_of_le (show a.length + p.length ≤ j by omega)
      exact hrest k ((occursAt_behind hcut).mp hj)
    · rintro ⟨-, hoverlap⟩ i hi
      have := hoverlap _ _ (occursAt_of_cutAt? hcut) ((occursAt_behind hcut).mpr hi)
      omega

/-- A text that is counted once is replaced at its first occurrence. -/
theorem replaceText_of_countText_eq_one (hp : p ≠ []) (q : List Char) (h : countText p s = 1) :
    ∃ a b, s = a ++ p ++ b ∧ (∀ i, OccursAt p s i → a.length ≤ i) ∧
      replaceText p q s = a ++ q ++ b := by
  cases hcut : cutAt? p s with
  | none =>
    rw [countText_of_none hcut] at h
    cases h
  | some cut =>
    obtain ⟨a, b⟩ := cut
    rw [countText_of_cut hp hcut, Nat.succ_inj, countText_eq_zero_iff hp] at h
    obtain ⟨hs, hfirst⟩ := eq_of_cutAt? hcut
    refine ⟨a, b, hs, hfirst, ?_⟩
    rw [replaceText_of_cut hp hcut, replaceText_of_none (cutAt?_eq_none_iff.mpr h)]

/-- A text occurs at more than one position, and all its occurrences overlap. -/
structure Tangled (p s : List Char) : Prop where
  several : ∃ i j, OccursAt p s i ∧ OccursAt p s j ∧ i < j
  overlap : ∀ i j, OccursAt p s i → OccursAt p s j → j < i + p.length

end AgentDesk.Text
