import AgentDesk.Proofs.Text.Pieces
import AgentDesk.Text.Blank
import Mathlib.Data.List.DropRight
/-!
# Words

The words of a text are what stands between its blanks. How many blanks there are does not count,
and trimming a text leaves its words.

## Main definitions

* `words` — the words of a text.
* `Apart` — no word goes on from one text into another.
-/

namespace AgentDesk.Text

variable {c : Char} {s w x y : List Char} {ws : List (List Char)}

/-- The words of a text: its pieces between blanks that are not empty. -/
def words (s : List Char) : List (List Char) := (s.splitOnP isBlank).filter fun w => !w.isEmpty

/-- No word goes on from one text into the next, for a blank ends the first or begins the second. -/
def Apart (x y : List Char) : Prop :=
  (∀ c ∈ x.getLast?, isBlank c = true) ∨ (∀ c ∈ y.head?, isBlank c = true)

@[simp] theorem words_nil : words [] = [] := rfl

/-- A blank separates words. -/
theorem words_append_blank (hc : isBlank c = true) (x y : List Char) :
    words (x ++ c :: y) = words x ++ words y := by
  rw [words, List.splitOnP_append_cons x y hc, List.filter_append, ← words, ← words]

theorem words_blank_cons (hc : isBlank c = true) (s : List Char) : words (c :: s) = words s :=
  words_append_blank hc [] s

/-- A blank at the end adds no word. -/
theorem words_append_singleton (hc : isBlank c = true) (s : List Char) :
    words (s ++ [c]) = words s := by
  rw [words_append_blank hc, words_nil, List.append_nil]

theorem words_of_blank (h : ∀ c ∈ s, isBlank c = true) : words s = [] := by
  induction s with
  | nil => rfl
  | cons c s ih =>
    rw [words_blank_cons (h c List.mem_cons_self), ih fun d hd => h d (List.mem_cons_of_mem _ hd)]

/-- A word stands for itself. -/
theorem words_of_word (hne : w ≠ []) (hw : ∀ c ∈ w, isBlank c = false) : words w = [w] := by
  rw [words, List.splitOnP_eq_singleton hw]
  simp [hne]

/-- **Texts that stand apart have the words of both.** -/
theorem words_append (h : Apart x y) : words (x ++ y) = words x ++ words y := by
  rcases h with hx | hy
  · cases x using List.reverseRecOn with
    | nil => rfl
    | append_singleton x c =>
      have hc : isBlank c = true := hx c (by simp)
      rw [List.append_assoc, List.singleton_append, words_append_blank hc,
        words_append_singleton hc]
  · cases y with
    | nil => simp
    | cons c y =>
      have hc : isBlank c = true := hy c rfl
      rw [words_append_blank hc, words_blank_cons hc]

/-- Words are not empty and hold characters of the text that are not blank. -/
theorem of_mem_words (h : w ∈ words s) : w ≠ [] ∧ ∀ c ∈ w, c ∈ s ∧ isBlank c = false := by
  obtain ⟨hw, hne⟩ := List.mem_filter.mp h
  exact ⟨by simpa using hne, of_mem_splitOnP hw⟩

theorem words_of_mem (h : w ∈ words s) : words w = [w] :=
  words_of_word (of_mem_words h).1 fun c hc => ((of_mem_words h).2 c hc).2

/-- Characters that become others leave the words where they were, if blanks stay blanks and no new
ones arise. -/
theorem words_flatMap {f : Char → List Char} (s : List Char)
    (hblank : ∀ c, isBlank c = true → ∃ d, f c = [d] ∧ isBlank d = true)
    (hother : ∀ c, isBlank c = false → f c ≠ [] ∧ ∀ d ∈ f c, isBlank d = false) :
    words (s.flatMap f) = (words s).map (·.flatMap f) := by
  have hempty (w : List Char) : (w.flatMap f).isEmpty = w.isEmpty := by
    rw [Bool.eq_iff_iff, List.isEmpty_iff, List.isEmpty_iff, List.flatMap_eq_nil_iff]
    refine ⟨fun h => List.eq_nil_iff_forall_not_mem.mpr fun c hc => ?_, fun h => by simp [h]⟩
    cases hb : isBlank c with
    | true =>
      obtain ⟨d, hd, -⟩ := hblank c hb
      simpa [hd] using h c hc
    | false => exact (hother c hb).1 (h c hc)
  rw [words, splitOnP_flatMap s hblank fun c hc => (hother c hc).2, List.filter_map, words]
  congr 1
  refine List.filter_congr fun w _ => ?_
  rw [Function.comp_apply, hempty]

/-! ## Trimming -/

theorem dropBlankEnd_eq (s : List Char) : dropBlankEnd s = s.rdropWhile isBlank := rfl

/-- A text is trimmed by taking blanks away from its ends. -/
theorem exists_append_strip (s : List Char) : ∃ front back, s = front ++ strip s ++ back ∧
    (∀ c ∈ front, isBlank c = true) ∧ ∀ c ∈ back, isBlank c = true := by
  refine ⟨s.takeWhile isBlank, (dropBlank s).rtakeWhile isBlank, ?_,
    fun c hc => List.mem_takeWhile_imp hc, fun c hc => List.mem_rtakeWhile_imp hc⟩
  rw [strip, dropBlankEnd_eq, List.append_assoc, List.rdropWhile_append_rtakeWhile, dropBlank,
    List.takeWhile_append_dropWhile]

theorem words_strip (s : List Char) : words (strip s) = words s := by
  obtain ⟨front, back, hs, hfront, hback⟩ := exists_append_strip s
  have happart : Apart front (strip s ++ back) :=
    .inl fun c hc => hfront c (List.mem_of_getLast? hc)
  have hbehind : Apart (strip s) back := .inr fun c hc => hback c (List.mem_of_head? hc)
  conv_rhs => rw [hs]
  rw [List.append_assoc, words_append happart, words_append hbehind, words_of_blank hfront,
    words_of_blank hback, List.nil_append, List.append_nil]

/-- A trimmed text begins with a character that is not blank. -/
theorem isBlank_head_strip (h : c ∈ (strip s).head?) : isBlank c = false := by
  obtain ⟨back, hback⟩ : strip s <+: dropBlank s := List.rdropWhile_prefix isBlank (dropBlank s)
  have hhead : c ∈ (dropBlank s).head? := by
    rw [← hback, List.head?_append, Option.mem_def.mp h]
    rfl
  obtain ⟨rest, hrest⟩ := List.head?_eq_some_iff.mp hhead
  have hself : (c :: rest).dropWhile isBlank = c :: rest := by
    rw [← hrest, dropBlank, List.dropWhile_idempotent]
  have hfirst := List.dropWhile_eq_self_iff.mp hself (by simp)
  simpa only [List.getElem_cons_zero, Bool.not_eq_true] using hfirst

theorem strip_of_word (hw : ∀ c ∈ w, isBlank c = false) : strip w = w := by
  obtain ⟨front, back, hs, hfront, hback⟩ := exists_append_strip w
  have hempty {x : List Char} (hx : ∀ c ∈ x, isBlank c = true) (hsub : ∀ c ∈ x, c ∈ w) :
      x = [] := by
    refine List.eq_nil_iff_forall_not_mem.mpr fun c hc => ?_
    have hblank := hw c (hsub c hc)
    rw [hx c hc] at hblank
    cases hblank
  have hfront' : front = [] := hempty hfront fun c hc => by
    rw [hs]
    simp [hc]
  have hback' : back = [] := hempty hback fun c hc => by
    rw [hs]
    simp [hc]
  simpa [hfront', hback'] using hs.symm

/-- A text that begins with a word is trimmed at its end only. -/
theorem strip_prefix_of_word (hne : w ≠ []) (hw : ∀ c ∈ w, isBlank c = false) (s : List Char) :
    strip (w ++ s) <+: w ++ s := by
  obtain ⟨front, back, hs, hfront, -⟩ := exists_append_strip (w ++ s)
  obtain ⟨c, w, rfl⟩ := List.exists_cons_of_ne_nil hne
  cases front with
  | nil => exact ⟨back, by simpa using hs.symm⟩
  | cons d front =>
    obtain rfl : c = d := (List.cons.inj hs).1
    have hc := hw c List.mem_cons_self
    rw [hfront c List.mem_cons_self] at hc
    cases hc

/-! ## First words -/

/-- A text that is not blank begins with a word, after blanks, and nothing goes on from it. -/
theorem exists_first_word (s : List Char) : (∀ c ∈ s, isBlank c = true) ∨
    ∃ front w rest, s = front ++ (w ++ rest) ∧ (∀ c ∈ front, isBlank c = true) ∧
      w ≠ [] ∧ (∀ c ∈ w, isBlank c = false) ∧ ∀ c ∈ rest.head?, isBlank c = true := by
  induction s with
  | nil => exact .inl nofun
  | cons c s ih =>
    cases hc : isBlank c with
    | true =>
      rcases ih with hs | ⟨front, w, rest, rfl, hfront, hw⟩
      · exact .inl (List.forall_mem_cons.mpr ⟨hc, hs⟩)
      · exact .inr ⟨c :: front, w, rest, rfl, List.forall_mem_cons.mpr ⟨hc, hfront⟩, hw⟩
    | false =>
      -- The word is this character alone, unless the text goes on with a word.
      rcases ih with hs | ⟨_ | ⟨d, front⟩, w, rest, rfl, hfront, hne, hw, hrest⟩
      · exact .inr ⟨[], [c], s, rfl, nofun, by simp, by simpa using hc,
          fun d hd => hs d (List.mem_of_mem_head? hd)⟩
      · exact .inr ⟨[], c :: w, rest, rfl, nofun, by simp, List.forall_mem_cons.mpr ⟨hc, hw⟩, hrest⟩
      · refine .inr ⟨[], [c], d :: front ++ (w ++ rest), rfl, nofun, by simp, by simpa using hc, ?_⟩
        intro e he
        obtain rfl : d = e := by simpa using he
        exact hfront d List.mem_cons_self

/-- **A text with words begins with the first one.** -/
theorem exists_append_of_words (h : words s = w :: ws) : ∃ front rest, s = front ++ (w ++ rest) ∧
    (∀ c ∈ front, isBlank c = true) ∧ (∀ c ∈ rest.head?, isBlank c = true) ∧ words rest = ws := by
  rcases exists_first_word s with hs | ⟨front, first, rest, rfl, hfront, hne, hfirst, hrest⟩
  · rw [words_of_blank hs] at h
    cases h
  · have happart : Apart front (first ++ rest) :=
      .inl fun c hc => hfront c (List.mem_of_getLast? hc)
    rw [words_append happart, words_append (.inr hrest), words_of_blank hfront,
      words_of_word hne hfirst] at h
    obtain ⟨rfl, rfl⟩ := List.cons.inj h
    exact ⟨front, rest, rfl, hfront, hrest, rfl⟩

/-- Trimmed, it begins with it at once. -/
theorem exists_strip_of_words (h : words s = w :: ws) : ∃ rest, strip s = w ++ rest ∧
    (∀ c ∈ rest.head?, isBlank c = true) ∧ words rest = ws := by
  rw [← words_strip] at h
  obtain ⟨front, rest, hs, hfront, hrest⟩ := exists_append_of_words h
  cases front with
  | nil => exact ⟨rest, hs, hrest⟩
  | cons c front =>
    have hc : isBlank c = false := isBlank_head_strip (s := s) (by rw [hs]; rfl)
    rw [hfront c List.mem_cons_self] at hc
    cases hc

end AgentDesk.Text
