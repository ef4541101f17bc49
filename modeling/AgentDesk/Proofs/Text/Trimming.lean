import AgentDesk.Proofs.Text.Lines
import AgentDesk.Proofs.Text.Words
/-!
# Trimming line by line

A text whose lines end without blanks is trimmed by taking away the blank lines at its ends and the
indent of the first line that is left. The lines of what is left are the lines that were left.

## Main definitions

* `Bare` — a line without blanks at its end.
* `joined` — the text of lines.
* `core` — the lines that are left when their text is trimmed.
-/

namespace AgentDesk.Text

variable {c : Char} {l s : List Char} {ls : List (List Char)}

/-! ## Lines without blanks at their ends -/

/-- A line does not end in a blank. -/
def Bare (l : List Char) : Prop := ∀ c ∈ l.getLast?, isBlank c = false

theorem bare_nil : Bare [] := by simp [Bare]

theorem bare_append_singleton : Bare (s ++ [c]) ↔ isBlank c = false := by simp [Bare]

theorem dropBlankEnd_append_singleton (s : List Char) (c : Char) :
    dropBlankEnd (s ++ [c]) = if isBlank c then dropBlankEnd s else s ++ [c] :=
  List.rdropWhile_concat isBlank s c

theorem bare_dropBlankEnd (s : List Char) : Bare (dropBlankEnd s) := by
  induction s using List.reverseRecOn with
  | nil => exact bare_nil
  | append_singleton s c ih =>
    rw [dropBlankEnd_append_singleton]
    by_cases hc : isBlank c
    · rwa [if_pos hc]
    · rw [if_neg hc, bare_append_singleton]
      simpa using hc

theorem dropBlankEnd_of_bare (h : Bare l) : dropBlankEnd l = l := by
  cases l using List.reverseRecOn with
  | nil => rfl
  | append_singleton s c =>
    rw [bare_append_singleton] at h
    simp [dropBlankEnd_append_singleton, h]

/-- A text that ends with a line that is not empty ends as the line does. -/
theorem Bare.append (h : Bare l) (hne : l ≠ []) (s : List Char) : Bare (s ++ l) := by
  intro c hc
  rw [List.getLast?_append_of_ne_nil s hne] at hc
  exact h c hc

/-- A line is blank if nothing is left of it. -/
theorem dropBlankEnd_eq_nil_iff : dropBlankEnd s = [] ↔ s.all isBlank := by
  rw [dropBlankEnd_eq, List.rdropWhile_eq_nil_iff, List.all_eq_true]

/-- A line that does not end in a blank holds blanks only if it is empty. -/
theorem all_isBlank_of_bare (h : Bare l) : l.all isBlank = l.isEmpty := by
  rw [Bool.eq_iff_iff, ← dropBlankEnd_eq_nil_iff, dropBlankEnd_of_bare h, List.isEmpty_iff]

theorem dropReturn_of_bare (h : Bare l) : dropReturn l = l := by
  cases l using List.reverseRecOn with
  | nil => rfl
  | append_singleton s c =>
    rw [bare_append_singleton] at h
    have hc : c ≠ '\r' := by
      rintro rfl
      exact absurd h (by decide)
    simp [dropReturn, hc]

/-- Something is left of a line that does not end in a blank. -/
theorem dropBlank_ne_nil (h : Bare l) (hne : l ≠ []) : dropBlank l ≠ [] := by
  cases l using List.reverseRecOn with
  | nil => exact absurd rfl hne
  | append_singleton s c =>
    rw [bare_append_singleton] at h
    simp [dropBlank, h]

theorem Bare.dropBlank (h : Bare l) : Bare (dropBlank l) := by
  intro c hc
  obtain ⟨front, hfront⟩ : Text.dropBlank l <:+ l := List.dropWhile_suffix isBlank
  have hlast : c ∈ l.getLast? := by
    rw [← hfront, List.getLast?_append, Option.mem_def.mp hc]
    rfl
  exact h c hlast

/-- The blanks in front of a text end in its first line that is not empty. -/
theorem dropBlank_append (h : Bare l) (hne : l ≠ []) (s : List Char) :
    Text.dropBlank (l ++ s) = Text.dropBlank l ++ s := by
  have hleft : ((l.dropWhile isBlank).isEmpty) = false := by
    simpa [Text.dropBlank] using dropBlank_ne_nil h hne
  rw [Text.dropBlank, List.dropWhile_append, hleft]
  rfl

/-! ## Texts of lines -/

/-- The text of lines. -/
def joined (ls : List (List Char)) : List Char := ['\n'].intercalate ls

theorem exists_joined_cons (ls : List (List Char)) : ∃ rest, ∀ l, joined (l :: ls) = l ++ rest := by
  cases ls with
  | nil => exact ⟨[], fun l => by simp [joined]⟩
  | cons l' ls => exact ⟨'\n' :: joined (l' :: ls), fun l => by simp [joined]⟩

theorem joined_nil_cons (hne : ls ≠ []) : joined ([] :: ls) = '\n' :: joined ls := by
  simp [joined, List.intercalate_cons_of_ne_nil hne]

theorem joined_append_singleton (hne : ls ≠ []) (l : List Char) :
    joined (ls ++ [l]) = joined ls ++ '\n' :: l := by
  induction ls with
  | nil => exact absurd rfl hne
  | cons l' ls ih =>
    by_cases hls : ls = []
    · simp [hls, joined]
    · have hmore : ls ++ [l] ≠ [] := by simp
      have hstep := ih hls
      rw [joined] at hstep ⊢
      rw [List.cons_append, List.intercalate_cons_of_ne_nil hmore, hstep, joined, joined,
        List.intercalate_cons_of_ne_nil hls]
      simp

theorem exists_joined_append_singleton (ls : List (List Char)) :
    ∃ front, ∀ l, joined (ls ++ [l]) = front ++ l := by
  by_cases hls : ls = []
  · exact ⟨[], fun l => by simp [hls, joined]⟩
  · exact ⟨joined ls ++ ['\n'], fun l => by simp [joined_append_singleton hls]⟩

/-- What was joined is cut again. -/
theorem splitOn_joined (hne : ls ≠ []) (hline : ∀ l ∈ ls, '\n' ∉ l) :
    (joined ls).splitOn '\n' = ls :=
  List.splitOn_intercalate '\n' hline hne

theorem joined_splitOn (s : List Char) : joined (s.splitOn '\n') = s :=
  List.intercalate_splitOn '\n'

/-- **Lines without blanks at their ends are the lines of their text**, if the last is not empty. -/
theorem linesOf_joined (hline : ∀ l ∈ ls, '\n' ∉ l) (hbare : ∀ l ∈ ls, Bare l)
    (hlast : ls.getLast? ≠ some []) : linesOf (joined ls) = ls := by
  cases ls using List.reverseRecOn with
  | nil => rfl
  | append_singleton ls l =>
    have hne : l ≠ [] := by simpa using hlast
    have hsplit : splitOn (· == '\n') (joined (ls ++ [l])) = ls ++ [l] := by
      rw [splitOn_eq_splitOnP]
      exact splitOn_joined (by simp) hline
    have hreturns : ls.map dropReturn = ls := by
      refine (List.map_congr_left fun l' hl' => ?_).trans (List.map_id ls)
      exact dropReturn_of_bare (hbare l' (List.mem_append_left _ hl'))
    simp [linesOf, hsplit, hne, hreturns]

/-- A text that does not end in a blank has a last line. -/
theorem getLast?_splitOn_ne (h : Bare s) (hne : s ≠ []) : (s.splitOn '\n').getLast? ≠ some [] := by
  intro hlast
  obtain ⟨front, hfront⟩ := List.getLast?_eq_some_iff.mp hlast
  have hs := joined_splitOn s
  rw [hfront] at hs
  by_cases hnone : front = []
  · exact hne (by simpa [hnone, joined] using hs.symm)
  · rw [joined_append_singleton hnone] at hs
    rw [← hs, bare_append_singleton] at h
    exact absurd h (by decide)

/-- The lines of a text are what stands between its line feeds, if nothing is lost at their ends. -/
theorem linesOf_eq_splitOn (hbare : ∀ l ∈ s.splitOn '\n', Bare l) (h : Bare s) (hne : s ≠ []) :
    linesOf s = s.splitOn '\n' := by
  have hline : ∀ l ∈ s.splitOn '\n', '\n' ∉ l := by
    intro l hl hc
    rw [List.splitOn_eq_splitOnP] at hl
    simpa using (of_mem_splitOnP hl _ hc).2
  conv_lhs => rw [← joined_splitOn s]
  exact linesOf_joined hline hbare (getLast?_splitOn_ne h hne)

/-! ## Trimming -/

theorem strip_of_bare (hbegins : ∀ c ∈ s.head?, isBlank c = false) (h : Bare s) : strip s = s := by
  have hfront : dropBlank s = s := by
    cases s with
    | nil => rfl
    | cons c s => simp [dropBlank, hbegins c rfl]
  rw [strip, hfront, dropBlankEnd_of_bare h]

/-- The lines without the empty ones at both ends and without the indent of the first. -/
def core (ls : List (List Char)) : List (List Char) :=
  ((ls.dropWhile List.isEmpty).modifyHead dropBlank).rdropWhile List.isEmpty

theorem dropBlank_joined (h : ∀ l ∈ ls, Bare l) :
    dropBlank (joined ls) = joined ((ls.dropWhile List.isEmpty).modifyHead dropBlank) := by
  induction ls with
  | nil => rfl
  | cons l ls ih =>
    by_cases hl : l = []
    · subst hl
      by_cases hls : ls = []
      · simp [hls, joined, dropBlank]
      · have hblank : isBlank '\n' = true := by decide
        have hrest : dropBlank ('\n' :: joined ls) = dropBlank (joined ls) := by
          simp [dropBlank, hblank]
        rw [joined_nil_cons hls, hrest, ih fun l hl => h l (List.mem_cons_of_mem _ hl)]
        simp
    · obtain ⟨rest, hrest⟩ := exists_joined_cons ls
      have hstay : (l :: ls).dropWhile List.isEmpty = l :: ls := by simp [hl]
      rw [hstay, List.modifyHead_cons, hrest, hrest]
      exact dropBlank_append (h l List.mem_cons_self) hl rest

theorem dropBlankEnd_joined (h : ∀ l ∈ ls, Bare l) :
    dropBlankEnd (joined ls) = joined (ls.rdropWhile List.isEmpty) := by
  induction ls using List.reverseRecOn with
  | nil => rfl
  | append_singleton ls l ih =>
    by_cases hl : l = []
    · subst hl
      rw [List.rdropWhile_concat_pos _ _ _ rfl,
        ← ih fun l hl => h l (List.mem_append_left _ hl)]
      by_cases hls : ls = []
      · simp [hls, joined]
      · have hblank : isBlank '\n' = true := by decide
        rw [joined_append_singleton hls, dropBlankEnd_append_singleton, if_pos hblank]
    · have hbare : Bare l := h l (by simp)
      obtain ⟨front, hfront⟩ := exists_joined_append_singleton ls
      rw [List.rdropWhile_concat_neg _ _ _ (by simpa using hl), hfront]
      exact dropBlankEnd_of_bare (hbare.append hl front)

theorem bare_modifyHead (h : ∀ l ∈ ls, Bare l) : ∀ l ∈ ls.modifyHead dropBlank, Bare l := by
  cases ls with
  | nil => simp
  | cons l ls =>
    rw [List.modifyHead_cons, List.forall_mem_cons]
    exact ⟨(h l List.mem_cons_self).dropBlank, fun l' hl' => h l' (List.mem_cons_of_mem _ hl')⟩

theorem bare_dropWhile (h : ∀ l ∈ ls, Bare l) : ∀ l ∈ ls.dropWhile List.isEmpty, Bare l :=
  fun l hl => h l ((List.dropWhile_suffix _).subset hl)

/-- **A text of lines that end without blanks is trimmed line by line.** -/
theorem strip_joined (h : ∀ l ∈ ls, Bare l) : strip (joined ls) = joined (core ls) := by
  rw [strip, dropBlank_joined h, dropBlankEnd_joined (bare_modifyHead (bare_dropWhile h))]
  rfl

/-! ## The lines that are left -/

theorem bare_core (h : ∀ l ∈ ls, Bare l) : ∀ l ∈ core ls, Bare l :=
  fun l hl => bare_modifyHead (bare_dropWhile h) l ((List.rdropWhile_prefix _ _).subset hl)

theorem exists_of_mem_core (h : l ∈ core ls) : ∃ l' ∈ ls, l <:+ l' := by
  have hmem : l ∈ (ls.dropWhile List.isEmpty).modifyHead dropBlank :=
    (List.rdropWhile_prefix _ _).subset h
  have hsub {l' : List Char} (hl' : l' ∈ ls.dropWhile List.isEmpty) : l' ∈ ls :=
    (List.dropWhile_suffix _).subset hl'
  cases hdrop : ls.dropWhile List.isEmpty with
  | nil => simp [hdrop] at hmem
  | cons first rest =>
    rw [hdrop] at hmem hsub
    rw [List.modifyHead_cons, List.mem_cons] at hmem
    rcases hmem with rfl | hmem
    · exact ⟨first, hsub List.mem_cons_self, List.dropWhile_suffix isBlank⟩
    · exact ⟨l, hsub (List.mem_cons_of_mem _ hmem), List.suffix_refl l⟩

/-- No line feed comes into the lines. -/
theorem notMem_of_mem_core (hline : ∀ l ∈ ls, '\n' ∉ l) : ∀ l ∈ core ls, '\n' ∉ l := by
  intro l hl hc
  obtain ⟨l', hl', hsuffix⟩ := exists_of_mem_core hl
  exact hline l' hl' (hsuffix.subset hc)

theorem getLast?_rdropWhile_ne (ls : List (List Char)) :
    (ls.rdropWhile List.isEmpty).getLast? ≠ some [] := by
  induction ls using List.reverseRecOn with
  | nil => simp
  | append_singleton ls l ih =>
    rw [List.rdropWhile_concat]
    split
    · exact ih
    · simp_all

/-- The last line that is left is not empty. -/
theorem getLast?_core_ne (ls : List (List Char)) : (core ls).getLast? ≠ some [] :=
  getLast?_rdropWhile_ne _

theorem head?_dropWhile_ne (ls : List (List Char)) :
    (ls.dropWhile List.isEmpty).head? ≠ some [] := by
  intro h
  have hhead := List.head?_dropWhile_not List.isEmpty ls
  simp [h] at hhead

/-- An indent that is taken away leaves no empty line. -/
theorem isEmpty_dropBlank (h : Bare l) : (dropBlank l).isEmpty = l.isEmpty := by
  by_cases hne : l = []
  · simp [hne, dropBlank]
  · have hleft : (dropBlank l).isEmpty = false := by simpa using dropBlank_ne_nil h hne
    simp [hne, hleft]

theorem map_isEmpty_modifyHead (h : ∀ l ∈ ls, Bare l) :
    (ls.modifyHead dropBlank).map List.isEmpty = ls.map List.isEmpty := by
  cases ls with
  | nil => rfl
  | cons l ls => simp [isEmpty_dropBlank (h l List.mem_cons_self)]

/-- Empty lines stand next to each other among the lines that are left only where they did before.
-/
theorem map_isEmpty_core_infix (h : ∀ l ∈ ls, Bare l) :
    (core ls).map List.isEmpty <:+: ls.map List.isEmpty := by
  have hfront : (ls.dropWhile List.isEmpty).map List.isEmpty <:+ ls.map List.isEmpty :=
    (List.dropWhile_suffix _).map _
  have hback : (core ls).map List.isEmpty <+:
      ((ls.dropWhile List.isEmpty).modifyHead dropBlank).map List.isEmpty :=
    (List.rdropWhile_prefix _ _).map _
  rw [map_isEmpty_modifyHead (bare_dropWhile h)] at hback
  exact hback.isInfix.trans hfront.isInfix

/-- The lines that are not empty. -/
def filled (ls : List (List Char)) : List (List Char) := ls.filter fun l => !l.isEmpty

theorem filled_append (ls ls' : List (List Char)) : filled (ls ++ ls') = filled ls ++ filled ls' :=
  List.filter_append ls ls'

theorem filled_of_isEmpty (h : ∀ l ∈ ls, l.isEmpty = true) : filled ls = [] := by
  rw [filled, List.filter_eq_nil_iff]
  intro l hl
  simp [h l hl]

theorem filled_dropWhile (ls : List (List Char)) :
    filled (ls.dropWhile List.isEmpty) = filled ls := by
  have hfront : filled (ls.takeWhile List.isEmpty) = [] :=
    filled_of_isEmpty fun l hl => List.mem_takeWhile_imp hl
  conv_rhs => rw [← List.takeWhile_append_dropWhile (p := List.isEmpty) (l := ls)]
  rw [filled_append, hfront, List.nil_append]

theorem filled_rdropWhile (ls : List (List Char)) :
    filled (ls.rdropWhile List.isEmpty) = filled ls := by
  have hback : filled (ls.rtakeWhile List.isEmpty) = [] :=
    filled_of_isEmpty fun l hl => List.mem_rtakeWhile_imp hl
  conv_rhs => rw [← List.rdropWhile_append_rtakeWhile (p := List.isEmpty) (l := ls)]
  rw [filled_append, hback, List.append_nil]

/-- **The lines that are not empty are left**, the first of them without its indent. -/
theorem filled_core (h : ∀ l ∈ ls, Bare l) :
    filled (core ls) = (filled ls).modifyHead dropBlank := by
  rw [core, filled_rdropWhile, ← filled_dropWhile ls]
  have hbare := bare_dropWhile h
  have hhead := head?_dropWhile_ne ls
  cases hdrop : ls.dropWhile List.isEmpty with
  | nil => rfl
  | cons first rest =>
    rw [hdrop] at hbare hhead
    have hne : first ≠ [] := by simpa using hhead
    have hleft : dropBlank first ≠ [] := dropBlank_ne_nil (hbare first List.mem_cons_self) hne
    simp [filled, hne, hleft]

end AgentDesk.Text
