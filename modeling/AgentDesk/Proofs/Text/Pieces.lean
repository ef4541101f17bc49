import AgentDesk.Text.Pieces
import Mathlib.Data.List.Basic
/-!
# Laws of cutting at separators

Cutting at separators is an operation of the library. What is known of it here: how the pieces of
two texts fit together, that no piece holds a separator, and that a change of characters that leaves
the separators alone changes each piece on its own.
-/

namespace AgentDesk.Text

variable {α β : Type} {p : α → Bool}

/-- Cutting at separators is the library's operation. -/
theorem splitOn_eq_splitOnP (p : α → Bool) (s : List α) : splitOn p s = s.splitOnP p := by
  induction s with
  | nil => rfl
  | cons c s ih =>
    have hstep : splitOn p (c :: s) = splitStep p c (splitOn p s) := rfl
    rw [hstep, ih, List.splitOnP_cons_eq_if_modifyHead]
    cases hpieces : s.splitOnP p with
    | nil => exact absurd hpieces (List.splitOnP_ne_nil p s)
    | cons w ws => simp [splitStep]

/-- **Cutting a text that comes in two parts**: the pieces of the first part are final but for the
last one, which goes on into the second part. -/
theorem splitOnP_append (p : α → Bool) (as bs : List α) :
    (as ++ bs).splitOnP p =
      (as.splitOnP p).dropLast ++ ((as.splitOnP p).getLastD [] ++ bs).splitOnP p := by
  induction as with
  | nil => simp
  | cons a as ih =>
    rw [List.cons_append, List.splitOnP_cons_eq_if_modifyHead, List.splitOnP_cons_eq_if_modifyHead,
      ih]
    cases hpieces : as.splitOnP p with
    | nil => exact absurd hpieces (List.splitOnP_ne_nil p as)
    | cons w ws =>
      by_cases ha : p a
      · simp [ha]
      · cases ws with
        | nil => simp [ha, List.splitOnP_cons_eq_if_modifyHead]
        | cons w' ws => simp [ha]

/-- A piece holds characters of the text, and no separator. -/
theorem of_mem_splitOnP {s w : List α} (hw : w ∈ s.splitOnP p) : ∀ c ∈ w, c ∈ s ∧ p c = false := by
  induction s generalizing w with
  | nil =>
    rw [List.splitOnP_nil, List.mem_singleton] at hw
    simp [hw]
  | cons c s ih =>
    rw [List.splitOnP_cons_eq_if_modifyHead] at hw
    obtain ⟨first, more, hpieces⟩ := List.exists_cons_of_ne_nil (List.splitOnP_ne_nil p s)
    rw [hpieces] at hw ih
    have hbehind {v : List α} (hv : v ∈ first :: more) : ∀ d ∈ v, d ∈ c :: s ∧ p d = false :=
      fun d hd => (ih hv d hd).imp_left (List.mem_cons_of_mem c)
    split_ifs at hw with hc
    · rcases List.mem_cons.mp hw with rfl | hw
      · simp
      · exact hbehind hw
    · rcases List.mem_cons.mp hw with rfl | hw
      · exact List.forall_mem_cons.mpr
          ⟨⟨List.mem_cons_self, by simpa using hc⟩, hbehind List.mem_cons_self⟩
      · exact hbehind (List.mem_cons_of_mem _ hw)

/-- What holds no separator goes in front of the first piece. -/
theorem splitOnP_append_of_forall {as : List α} (h : ∀ c ∈ as, p c = false) (s : List α) :
    (as ++ s).splitOnP p = (s.splitOnP p).modifyHead (as ++ ·) := by
  obtain ⟨first, more, hpieces⟩ := List.exists_cons_of_ne_nil (List.splitOnP_ne_nil p s)
  rw [hpieces]
  induction as with
  | nil => exact hpieces
  | cons a as ih =>
    rw [List.cons_append, List.splitOnP_cons_eq_if_modifyHead, h a List.mem_cons_self,
      ih fun c hc => h c (List.mem_cons_of_mem _ hc)]
    rfl

/-- **Characters that become others are cut where they were**, if the separators stay and no new
ones arise. -/
theorem splitOnP_flatMap {q : β → Bool} {f : α → List β} (s : List α)
    (hsep : ∀ c, p c = true → ∃ d, f c = [d] ∧ q d = true)
    (hother : ∀ c, p c = false → ∀ d ∈ f c, q d = false) :
    (s.flatMap f).splitOnP q = (s.splitOnP p).map (·.flatMap f) := by
  induction s with
  | nil => simp
  | cons c s ih =>
    rw [List.flatMap_cons, List.splitOnP_cons_eq_if_modifyHead]
    obtain ⟨first, more, hpieces⟩ := List.exists_cons_of_ne_nil (List.splitOnP_ne_nil p s)
    cases hc : p c with
    | true =>
      obtain ⟨d, hd, hq⟩ := hsep c hc
      simp [hd, List.splitOnP_cons_eq_if_modifyHead, hq, ih]
    | false =>
      rw [splitOnP_append_of_forall (hother c hc), ih, hpieces]
      simp

end AgentDesk.Text
