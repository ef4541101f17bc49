import AgentDesk.Proofs.Text.Trimming
import AgentDesk.Workbench.Download
/-!
# Tidy texts

A downloaded text is made tidy: no line of it ends in blanks, it neither begins nor ends with one,
and no more than two blank lines stand in a row. Of its lines only blank ones are lost, and a tidy
text is left as it is.

## Main definitions

* `Download.Tidy` — a tidy text.
* `Download.filledLines` — the lines of a text that are not blank.
* `Download.Spaced` — lines of which no more than two in a row are empty.
-/

namespace AgentDesk.Download

open Text (Bare joined core filled)

variable {blanks : Nat} {l : List Char} {ls : List (List Char)} {text : String}

/-- A tidy text. What stands between line feeds is a line here, so that a carriage return in front
of one would be a blank at the end of a line. -/
structure Tidy (text : String) : Prop where
  begins : ∀ c ∈ text.toList.head?, Text.isBlank c = false
  ends : ∀ c ∈ text.toList.getLast?, Text.isBlank c = false
  lineEnds : ∀ line ∈ Text.splitChar '\n' text, ∀ c ∈ line.toList.getLast?, Text.isBlank c = false
  blankRuns :
    ∀ run, run <:+: Text.splitChar '\n' text → (∀ line ∈ run, Text.isBlankText line = true) →
    run.length ≤ 2

/-- The lines of a text that are not blank. -/
def filledLines (text : String) : List String :=
  (Text.lines text).filter fun line => !Text.isBlankText line

/-! ## Runs of empty lines -/

/-- No more than two lines in a row are empty, and the lines begin with so many less as were counted
before. -/
structure Spaced (blanks : Nat) (ls : List (List Char)) : Prop where
  begins : ∀ n, List.replicate n true <+: ls.map List.isEmpty → n ≤ blankRun - blanks
  inside : ∀ n, List.replicate n true <:+: ls.map List.isEmpty → n ≤ blankRun

theorem Spaced.of_inside (h : ∀ n, List.replicate n true <:+: ls.map List.isEmpty → n ≤ blankRun) :
    Spaced 0 ls :=
  ⟨fun n hn => h n hn.isInfix, h⟩

theorem spaced_nil : Spaced blanks [] := by
  constructor
  · intro n hn
    simp_all
  · intro n hn
    simp_all

theorem spaced_singleton (l : List Char) : Spaced 0 [l] := by
  refine .of_inside fun n hn => ?_
  have hlength := hn.length_le
  simp only [List.length_replicate, List.map_cons, List.map_nil, List.length_cons,
    List.length_nil] at hlength
  unfold blankRun
  omega

/-- An empty line is one less. -/
theorem spaced_empty_cons_iff : Spaced blanks ([] :: ls) ↔
    blanks < blankRun ∧ Spaced (blanks + 1) ls := by
  have hcons (n : Nat) : List.replicate (n + 1) true <+: ([] :: ls).map List.isEmpty ↔
      List.replicate n true <+: ls.map List.isEmpty := by
    rw [List.map_cons, List.replicate_succ, List.cons_prefix_cons]
    simp
  constructor
  · intro h
    have hfirst := h.begins 1 ((hcons 0).mpr (by simp))
    refine ⟨by omega, fun n hn => ?_, fun n hn => ?_⟩
    · have hmore := h.begins (n + 1) ((hcons n).mpr hn)
      omega
    · exact h.inside n (List.infix_cons_iff.mpr (.inr hn))
  · rintro ⟨hroom, h⟩
    have hbegins (n : Nat) (hn : List.replicate n true <+: ([] :: ls).map List.isEmpty) :
        n ≤ blankRun - blanks := by
      cases n with
      | zero => omega
      | succ n =>
        have hrest := h.begins n ((hcons n).mp hn)
        omega
    refine ⟨hbegins, fun n hn => ?_⟩
    rcases List.infix_cons_iff.mp hn with hn | hn
    · have hrun := hbegins n hn
      omega
    · exact h.inside n hn

/-- Behind another line the count begins anew. -/
theorem spaced_cons_iff (hl : l ≠ []) : Spaced blanks (l :: ls) ↔ Spaced 0 ls := by
  have hnone (n : Nat) (hn : List.replicate n true <+: (l :: ls).map List.isEmpty) : n = 0 := by
    cases n with
    | zero => rfl
    | succ n =>
      rw [List.map_cons, List.replicate_succ, List.cons_prefix_cons] at hn
      simp [hl] at hn
  constructor
  · intro h
    exact .of_inside fun n hn => h.inside n (List.infix_cons_iff.mpr (.inr hn))
  · intro h
    refine ⟨fun n hn => ?_, fun n hn => ?_⟩
    · simp [hnone n hn]
    · rcases List.infix_cons_iff.mp hn with hn | hn
      · simp [hnone n hn]
      · exact h.inside n hn

theorem Spaced.mono {more : Nat} (h : Spaced more ls) (hle : blanks ≤ more) : Spaced blanks ls := by
  refine ⟨fun n hn => ?_, h.inside⟩
  have hrun := h.begins n hn
  omega

theorem spaced_dropBlankLines (ls : List (List Char)) (blanks : Nat) :
    Spaced blanks (dropBlankLines blanks ls) := by
  induction ls generalizing blanks with
  | nil => exact spaced_nil
  | cons l ls ih =>
    by_cases hl : l = []
    · subst hl
      by_cases hroom : blanks < blankRun
      · simpa [dropBlankLines, hroom, spaced_empty_cons_iff] using ih (blanks + 1)
      · simpa [dropBlankLines, hroom] using (ih (blanks + 1)).mono (Nat.le_succ blanks)
    · simpa [dropBlankLines, hl, spaced_cons_iff hl] using ih 0

/-- Where no more than two lines in a row are empty, none is dropped. -/
theorem dropBlankLines_of_spaced (h : Spaced blanks ls) : dropBlankLines blanks ls = ls := by
  induction ls generalizing blanks with
  | nil => rfl
  | cons l ls ih =>
    by_cases hl : l = []
    · subst hl
      obtain ⟨hroom, hrest⟩ := spaced_empty_cons_iff.mp h
      simp [dropBlankLines, hroom, ih hrest]
    · simp [dropBlankLines, hl, ih ((spaced_cons_iff hl).mp h)]

theorem dropBlankLines_sublist (ls : List (List Char)) (blanks : Nat) :
    (dropBlankLines blanks ls).Sublist ls := by
  induction ls generalizing blanks with
  | nil => exact .slnil
  | cons l ls ih =>
    rw [dropBlankLines]
    split_ifs
    · exact (ih _).cons_cons l
    · exact (ih _).cons l
    · exact (ih _).cons_cons l

/-- No line is dropped but empty ones. -/
theorem filled_dropBlankLines (ls : List (List Char)) (blanks : Nat) :
    filled (dropBlankLines blanks ls) = filled ls := by
  induction ls generalizing blanks with
  | nil => rfl
  | cons l ls ih =>
    unfold filled at ih ⊢
    rw [dropBlankLines]
    split_ifs with hl hroom
    · simp [hl, ih]
    · simp [hl, ih]
    · simp [hl, ih]

/-! ## The lines of a tidied text -/

/-- The lines of a text without blanks at their ends and without the empty lines that are too many.
-/
def spacedLines (body : String) : List (List Char) :=
  dropBlankLines 0 ((Text.linesOf body.toList).map Text.dropBlankEnd)

theorem bare_spacedLines (body : String) : ∀ l ∈ spacedLines body, Bare l := by
  intro l hl
  obtain ⟨line, -, rfl⟩ := List.mem_map.mp ((dropBlankLines_sublist _ 0).subset hl)
  exact Text.bare_dropBlankEnd line

theorem notMem_spacedLines (body : String) : ∀ l ∈ spacedLines body, '\n' ∉ l := by
  intro l hl hc
  obtain ⟨line, hline, rfl⟩ := List.mem_map.mp ((dropBlankLines_sublist _ 0).subset hl)
  exact Text.notMem_of_mem_linesOf hline ((List.rdropWhile_prefix _ line).subset hc)

theorem toList_tidy (body : String) : (tidy body).toList = joined (core (spacedLines body)) := by
  rw [← Text.strip_joined (bare_spacedLines body), tidy, String.toList_ofList]
  rfl

/-- The lines of a tidied text are those that are left when it is trimmed. -/
theorem linesOf_tidy (body : String) :
    Text.linesOf (tidy body).toList = core (spacedLines body) := by
  rw [toList_tidy]
  exact Text.linesOf_joined (Text.notMem_of_mem_core (notMem_spacedLines body))
    (Text.bare_core (bare_spacedLines body)) (Text.getLast?_core_ne _)

theorem spaced_core (h : ∀ l ∈ ls, Bare l) (hspaced : Spaced 0 ls) : Spaced 0 (core ls) := by
  refine .of_inside fun n hn => ?_
  exact hspaced.inside n (hn.trans (Text.map_isEmpty_core_infix h))

/-- A text without any line is cut into one piece, which is empty. -/
theorem splitOn_tidy (body : String) : (tidy body).toList.splitOn '\n' =
    if core (spacedLines body) = [] then [[]] else core (spacedLines body) := by
  rw [toList_tidy]
  split_ifs with hnone
  · simp [hnone, joined]
  · exact Text.splitOn_joined hnone (Text.notMem_of_mem_core (notMem_spacedLines body))

/-! ## What is tidy -/

theorem splitChar_eq (text : String) :
    Text.splitChar '\n' text = (text.toList.splitOn '\n').map String.ofList := by
  rw [Text.splitChar, Text.splitOn_eq_splitOnP]
  rfl

theorem isBlankText_ofList (h : Bare l) : Text.isBlankText (String.ofList l) = l.isEmpty := by
  rw [Text.isBlankText, String.toList_ofList, Text.all_isBlank_of_bare h]

theorem map_isBlankText (h : ∀ l ∈ ls, Bare l) :
    (ls.map String.ofList).map Text.isBlankText = ls.map List.isEmpty := by
  rw [List.map_map]
  exact List.map_congr_left fun l hl => isBlankText_ofList (h l hl)

theorem run_length_le_iff {α : Type} {p : α → Bool} {k : Nat} {as : List α} :
    (∀ run, run <:+: as → (∀ a ∈ run, p a = true) → run.length ≤ k) ↔
      ∀ n, List.replicate n true <:+: as.map p → n ≤ k := by
  constructor
  · rintro h n ⟨front, back, hmap⟩
    obtain ⟨first, rest, rfl, hfirst, rfl⟩ := List.map_eq_append_iff.mp hmap.symm
    obtain ⟨before, run, rfl, rfl, hrun⟩ := List.map_eq_append_iff.mp hfirst
    obtain ⟨hlength, hall⟩ := List.eq_replicate_iff.mp hrun
    have hle := h run ⟨before, rest, rfl⟩ fun a ha => hall _ (List.mem_map_of_mem ha)
    rwa [← List.length_map (f := p), hlength] at hle
  · intro h run hrun hall
    refine h run.length ?_
    have hmap : run.map p = List.replicate run.length true := by
      rw [List.eq_replicate_iff, List.length_map]
      simpa using hall
    exact hmap ▸ hrun.map p

/-- Where no line ends in blanks, blank lines in a row are empty lines in a row. -/
theorem blankRuns_iff (h : ∀ l ∈ ls, Bare l) :
    (∀ run, run <:+: ls.map String.ofList → (∀ line ∈ run, Text.isBlankText line = true) →
      run.length ≤ blankRun) ↔ Spaced 0 ls := by
  rw [run_length_le_iff, map_isBlankText h]
  exact ⟨.of_inside, fun hspaced => hspaced.inside⟩

theorem tidy_iff : Tidy text ↔ (∀ c ∈ text.toList.head?, Text.isBlank c = false) ∧
    Bare text.toList ∧ (∀ l ∈ text.toList.splitOn '\n', Bare l) ∧
      Spaced 0 (text.toList.splitOn '\n') := by
  constructor
  · rintro ⟨hbegins, hends, hlines, hruns⟩
    rw [splitChar_eq] at hlines hruns
    have hbare : ∀ l ∈ text.toList.splitOn '\n', Bare l := by
      simpa [Bare] using hlines
    exact ⟨hbegins, hends, hbare, (blankRuns_iff hbare).mp hruns⟩
  · rintro ⟨hbegins, hends, hbare, hspaced⟩
    refine ⟨hbegins, hends, ?_, ?_⟩
    · rw [splitChar_eq]
      simpa [Bare] using hbare
    · rw [splitChar_eq]
      exact (blankRuns_iff hbare).mpr hspaced

/-- A tidied text is tidy. -/
theorem tidy_tidied (body : String) : Tidy (tidy body) := by
  have hspaced := spaced_core (bare_spacedLines body) (spaced_dropBlankLines _ 0)
  have hbare := Text.bare_core (bare_spacedLines body)
  have hstrip : (tidy body).toList = Text.strip (joined (spacedLines body)) := by
    rw [toList_tidy, Text.strip_joined (bare_spacedLines body)]
  rw [tidy_iff, splitOn_tidy]
  refine ⟨fun c hc => ?_, ?_, ?_⟩
  · rw [hstrip] at hc
    exact Text.isBlank_head_strip hc
  · rw [hstrip]
    exact Text.bare_dropBlankEnd _
  · split_ifs
    · exact ⟨by simp [Text.bare_nil], spaced_singleton []⟩
    · exact ⟨hbare, hspaced⟩

/-- A tidy text is left as it is. -/
theorem Tidy.tidy_eq (h : Tidy text) : tidy text = text := by
  obtain ⟨hbegins, hends, hbare, hspaced⟩ := tidy_iff.mp h
  by_cases hempty : text.toList = []
  · rw [String.toList_eq_nil_iff.mp hempty]
    rfl
  · have hlines : spacedLines text = text.toList.splitOn '\n' := by
      have hends' :
          (text.toList.splitOn '\n').map Text.dropBlankEnd = text.toList.splitOn '\n' := by
        refine (List.map_congr_left fun l hl => ?_).trans (List.map_id _)
        exact Text.dropBlankEnd_of_bare (hbare l hl)
      rw [spacedLines, Text.linesOf_eq_splitOn hbare hends hempty, hends',
        dropBlankLines_of_spaced hspaced]
    rw [← String.toList_inj, toList_tidy, ← Text.strip_joined (bare_spacedLines text), hlines,
      Text.joined_splitOn, Text.strip_of_bare hbegins hends]

/-- The tidy texts are those that are left as they are. -/
theorem tidy_eq_self_iff : tidy text = text ↔ Tidy text :=
  ⟨fun h => h ▸ tidy_tidied text, Tidy.tidy_eq⟩

/-! ## What is kept -/

/-- The lines that are not blank, without the blanks at their ends. -/
theorem filled_map_dropBlankEnd (ls : List (List Char)) :
    filled (ls.map Text.dropBlankEnd) =
      (ls.filter fun l => !l.all Text.isBlank).map Text.dropBlankEnd := by
  rw [filled, List.filter_map]
  congr 1
  refine List.filter_congr fun l _ => ?_
  rw [Function.comp_apply, Bool.eq_iff_iff]
  simp only [Bool.not_eq_true', ← Bool.not_eq_true, List.isEmpty_iff,
    Text.dropBlankEnd_eq_nil_iff]

theorem filledLines_eq (text : String) : filledLines text =
    ((Text.linesOf text.toList).filter fun l => !l.all Text.isBlank).map String.ofList := by
  rw [filledLines, Text.lines, List.filter_map]
  simp [Function.comp_def, Text.isBlankText]

theorem filled_spacedLines (body : String) : filled (spacedLines body) =
    ((Text.linesOf body.toList).filter fun l => !l.all Text.isBlank).map Text.dropBlankEnd := by
  rw [spacedLines, filled_dropBlankLines, filled_map_dropBlankEnd]

/-- **Of the lines of a text only blank ones are lost**, and the blanks at the ends of the others
and in front of the first. -/
theorem filledLines_tidy (body : String) : filledLines (tidy body) =
    ((filledLines body).map Text.trimEnd).modifyHead Text.trimStart := by
  have hbare := Text.bare_core (bare_spacedLines body)
  have hleft : filledLines (tidy body) = (filled (core (spacedLines body))).map String.ofList := by
    rw [filledLines_eq, linesOf_tidy, filled]
    congr 1
    exact List.filter_congr fun l hl => by rw [Text.all_isBlank_of_bare (hbare l hl)]
  rw [hleft, Text.filled_core (bare_spacedLines body), filled_spacedLines, filledLines_eq]
  cases (Text.linesOf body.toList).filter fun l => !l.all Text.isBlank with
  | nil => rfl
  | cons first rest => simp [Text.trimEnd, Text.trimStart, Function.comp_def]

/-- **A text is made tidy, and its lines are kept.** A tidy text stays as it is. -/
theorem tidied_text (body : String) :
    Tidy (tidy body) ∧
    filledLines (tidy body) =
      ((filledLines body).map Text.trimEnd).modifyHead Text.trimStart ∧
    tidy (tidy body) = tidy body :=
  ⟨tidy_tidied body, filledLines_tidy body, tidy_eq_self_iff.mpr (tidy_tidied body)⟩

example : tidy " a  \n\n \n\r\n\n b\t\n\n" = "a\n\n\n b" := by decide

end AgentDesk.Download
