import AgentDesk.Proofs.Rankings
import AgentDesk.Proofs.Walks
import AgentDesk.Workbench.ContentSearch
/-!
# Lines found by content

A search for content shows the first of the lines that match. It does not matter in which order the
files are reported. The order of the lines keeps those of one file together, so that the text that
is shown has one block for each file.

## Main definitions

* `ContentSearch.compareLines` — the order of the lines.
* `ContentSearch.searchAmong` — what is found when files are reported.
* `ContentSearch.Matching` — what is to be shown.
* `ContentSearch.filesOf`, `ContentSearch.block` — the files of the lines and the text of each.
* `ContentSearch.Grouped`, `ContentSearch.Ordered` — lines that stand as the text needs them.
* `ContentSearch.Settled` — the lines are settled by the set of what is reported.
-/

namespace AgentDesk.ContentSearch

variable {root : Path} {regex : Regex} {limit : Nat} {patterns patterns' : List Glob.Pattern}
  {cs cs' : List Candidate} {c : Candidate} {m m' : LineMatch} {found : List LineMatch} {p : Path}

/-- The order of lines: the latest written file first, then by path and by number. -/
def compareLines (a b : LineMatch) : Ordering :=
  (compare b.modified a.modified).then ((a.path.order b.path).then (compare a.number b.number))

/-- The path of a file below the root. -/
def pathOf (root : Path) (c : Candidate) : Path := ⟨root.absolute, root.steps ++ c.names.map .name⟩

/-- The lines that are found when these files are reported. -/
def searchAmong (root : Path) (regex : Regex) (patterns : List Glob.Pattern) (cs : List Candidate) :
    List LineMatch :=
  cs.flatMap fun c =>
    if isWanted patterns ((pathOf root c).fileName?.getD "") (Text.join "/" c.names) then
      searchFile regex (pathOf root c) c.content c.modified
    else []

/-- A line stands in a reported file that holds text and is wanted, and it matches. -/
def Matching (root : Path) (regex : Regex) (patterns : List Glob.Pattern) (cs : List Candidate)
    (m : LineMatch) : Prop :=
  ∃ c ∈ cs, m.path = pathOf root c ∧ m.modified = c.modified ∧
    isWanted patterns (m.path.fileName?.getD "") (Text.join "/" c.names) ∧
    ∃ text, textOf? c.content = some text ∧ ∃ i line, (Text.lines text)[i]? = some line ∧
      regex.occursIn line ∧ m.number = i + 1 ∧ m.line = shown line

theorem search_eq (files : FileTree) (root : Path) (regex : Regex) (patterns : List Glob.Pattern) :
    search files root regex patterns = searchAmong root regex patterns (candidates files root) :=
      rfl

instance : Std.TransCmp compareLines :=
  inferInstanceAs (Std.TransCmp
    (compareLex (fun a b : LineMatch => compareOn LineMatch.modified b a)
      (compareLex (compareOn LineMatch.path) (compareOn LineMatch.number))))

theorem precedes_eq (a b : LineMatch) : precedes a b = (compareLines a b).isLE := by
  rw [compareLines, isLE_compare_then]
  rfl

/-! ## The lines of a file -/

theorem mem_matchingLines_iff {first : Nat} {lines : List String} {e : Nat × String} :
    e ∈ matchingLines regex first lines ↔ ∃ i line, lines[i]? = some line ∧ regex.occursIn line ∧
      e.1 = first + i ∧ e.2 = shown line := by
  induction lines generalizing first with
  | nil => simp [matchingLines]
  | cons line lines ih =>
    have hmem : e ∈ matchingLines regex first (line :: lines) ↔
        (regex.occursIn line ∧ e = (first, shown line)) ∨
          e ∈ matchingLines regex (first + 1) lines := by
      by_cases h : regex.occursIn line <;> simp [matchingLines, h]
    rw [hmem, ih]
    constructor
    · rintro (⟨hline, rfl⟩ | ⟨i, line, hi, hline, hnumber, hshown⟩)
      · exact ⟨0, line, rfl, hline, rfl, rfl⟩
      · exact ⟨i + 1, line, hi, hline, by omega, hshown⟩
    · rintro ⟨_ | i, full, hi, hline, hnumber, hshown⟩
      · cases hi
        exact .inl ⟨hline, Prod.ext hnumber hshown⟩
      · exact .inr ⟨i, full, hi, hline, by omega, hshown⟩

/-- The lines of a file are found in their order. -/
theorem pairwise_matchingLines (first : Nat) (lines : List String) :
    (matchingLines regex first lines).Pairwise fun a b => a.1 < b.1 := by
  induction lines generalizing first with
  | nil => exact .nil
  | cons line lines ih =>
    by_cases h : regex.occursIn line
    · simp only [matchingLines, h, if_true]
      refine .cons (fun e he => ?_) (ih _)
      obtain ⟨i, -, -, -, hnumber, -⟩ := mem_matchingLines_iff.mp he
      simp only
      omega
    · simp only [matchingLines, h]
      exact ih _

theorem mem_searchFile_iff {content : ByteArray} {modified : Nat} :
    m ∈ searchFile regex p content modified ↔ m.path = p ∧ m.modified = modified ∧
      ∃ text, textOf? content = some text ∧ ∃ i line, (Text.lines text)[i]? = some line ∧
        regex.occursIn line ∧ m.number = i + 1 ∧ m.line = shown line := by
  unfold searchFile
  split
  · rename_i hnone
    simp [hnone]
  · rename_i text htext
    simp only [List.mem_map, htext, Option.some.injEq, exists_eq_left']
    constructor
    · rintro ⟨e, he, rfl⟩
      obtain ⟨i, line, hi, hline, hnumber, hshown⟩ := mem_matchingLines_iff.mp he
      exact ⟨rfl, rfl, i, line, hi, hline, hnumber.trans (Nat.add_comm 1 i), hshown⟩
    · rintro ⟨hpath, hmodified, i, line, hi, hline, hnumber, hshown⟩
      refine ⟨(m.number, m.line), ?_, ?_⟩
      · exact mem_matchingLines_iff.mpr ⟨i, line, hi, hline, by omega, hshown⟩
      · cases m
        simp_all

/-! ## The lines of all files -/

theorem mem_searchAmong_iff (m : LineMatch) :
    m ∈ searchAmong root regex patterns cs ↔ Matching root regex patterns cs m := by
  simp only [searchAmong, List.mem_flatMap, Matching]
  refine exists_congr fun c => and_congr_right fun _ => ?_
  split_ifs with hwanted
  · rw [mem_searchFile_iff]
    constructor
    · rintro ⟨hpath, hmodified, hline⟩
      exact ⟨hpath, hmodified, hpath ▸ hwanted, hline⟩
    · rintro ⟨hpath, hmodified, -, hline⟩
      exact ⟨hpath, hmodified, hline⟩
  · simp only [List.not_mem_nil, false_iff]
    rintro ⟨hpath, -, hline, -⟩
    exact hwanted (hpath ▸ hline)

theorem names_of_pathOf {c c' : Candidate} (h : pathOf root c = pathOf root c') :
    c.names = c'.names := by
  have hsteps := List.append_cancel_left (congrArg Path.steps h)
  exact List.map_injective_iff.mpr (fun _ _ => PathStep.name.inj) hsteps

/-- The lines of one file know one time. -/
theorem modified_of_path (hnames : (cs.map (·.names)).Nodup)
    (hm : m ∈ searchAmong root regex patterns cs) (hm' : m' ∈ searchAmong root regex patterns cs)
    (hpath : m.path = m'.path) : m.modified = m'.modified := by
  obtain ⟨c, hc, hmc, hmodified, -⟩ := (mem_searchAmong_iff m).mp hm
  obtain ⟨c', hc', hmc', hmodified', -⟩ := (mem_searchAmong_iff m').mp hm'
  have hsame : c.names = c'.names := names_of_pathOf (hmc.symm.trans (hpath.trans hmc'))
  obtain rfl : c = c' := List.inj_on_of_nodup_map hnames hc hc' hsame
  rw [hmodified, hmodified']

/-- A line is found once if each file is reported once. -/
theorem pairwise_searchAmong (hnames : (cs.map (·.names)).Nodup) :
    (searchAmong root regex patterns cs).Pairwise fun a b => compareLines a b ≠ .eq := by
  have heq {a b : LineMatch} (h : compareLines a b = .eq) :
      a.path = b.path ∧ a.number = b.number := by
    rw [compareLines, Ordering.then_eq_eq, Ordering.then_eq_eq] at h
    exact ⟨Path.order_eq_eq_iff.mp h.2.1, Nat.compare_eq_eq.mp h.2.2⟩
  refine List.pairwise_flatMap.mpr ⟨fun c _ => ?_, (List.pairwise_map.mp hnames).imp ?_⟩
  · split_ifs
    · unfold searchFile
      split
      · exact .nil
      · refine List.pairwise_map.mpr ((pairwise_matchingLines 1 _).imp fun hlt h => ?_)
        exact Nat.ne_of_lt hlt (heq h).2
    · exact .nil
  · intro c c' hne m hm m' hm' h
    have hpath {c : Candidate} {m : LineMatch} (hm : m ∈ if isWanted patterns
        ((pathOf root c).fileName?.getD "") (Text.join "/" c.names) then
          searchFile regex (pathOf root c) c.content c.modified else []) :
        m.path = pathOf root c := by
      split_ifs at hm
      · exact (mem_searchFile_iff.mp hm).1
      · cases hm
    exact hne (names_of_pathOf ((hpath hm).symm.trans ((heq h).1.trans (hpath hm'))))

/-- **The first of the lines that match are shown**, if each file is reported once. -/
theorem ranking_searchAmong (root : Path) (regex : Regex) (patterns : List Glob.Pattern)
    (limit : Nat) (hnames : (cs.map (·.names)).Nodup) :
    Ranking compareLines (Matching root regex patterns cs) limit
      (ranked limit (searchAmong root regex patterns cs)) :=
  (Ranking.of_mergeSort precedes_eq (pairwise_searchAmong hnames)).congr mem_searchAmong_iff

theorem isWanted_congr (h : ∀ p, p ∈ patterns ↔ p ∈ patterns') (name relative : String) :
    isWanted patterns name relative = isWanted patterns' name relative := by
  have hany (test : Glob.Pattern → Bool) : patterns.any test = patterns'.any test := by
    rw [Bool.eq_iff_iff, List.any_eq_true, List.any_eq_true]
    exact exists_congr fun p => and_congr_left fun _ => h p
  have hempty : patterns.isEmpty = patterns'.isEmpty := by
    rw [Bool.eq_iff_iff, List.isEmpty_iff, List.isEmpty_iff, List.eq_nil_iff_forall_not_mem,
      List.eq_nil_iff_forall_not_mem]
    exact forall_congr' fun p => not_congr (h p)
  rw [isWanted, isWanted, hany, hempty]

theorem Matching.congr (hcs : ∀ c, c ∈ cs ↔ c ∈ cs') (hpatterns : ∀ p, p ∈ patterns ↔ p ∈ patterns')
    (m : LineMatch) : Matching root regex patterns cs m ↔ Matching root regex patterns' cs' m := by
  simp only [Matching, hcs, isWanted_congr hpatterns]

/-- The order of the reports makes no difference, nor that of the patterns. -/
theorem ranked_congr (hnames : (cs.map (·.names)).Nodup) (hperm : cs.Perm cs')
    (hpatterns : ∀ p, p ∈ patterns ↔ p ∈ patterns') :
    ranked limit (searchAmong root regex patterns cs) =
      ranked limit (searchAmong root regex patterns' cs') :=
  ((ranking_searchAmong root regex patterns limit hnames).congr
    (Matching.congr (fun _ => hperm.mem_iff) hpatterns)).unique
      (ranking_searchAmong root regex patterns' limit ((hperm.map _).nodup_iff.mp hnames))

/-- The files below a root of a tree are reported once each. -/
theorem nodup_candidates {files : FileTree} (h : files.nodes.keys.Nodup) (root : Path) :
    ((candidates files root).map (·.names)).Nodup := by
  unfold candidates
  extract_lets own
  split
  · exact List.nodup_singleton _
  · rename_i place _ _
    refine List.pairwise_map.mpr (List.pairwise_filterMap.mpr ?_)
    refine (List.pairwise_map.mp (FileTree.nodup_walkFrom h _ _)).imp ?_
    intro e e' hne c hc c' hc' hsame
    have hnames : c.names = e.names := by split at hc <;> cases hc; rfl
    have hnames' : c'.names = e'.names := by split at hc' <;> cases hc'; rfl
    exact hne (hnames.symm.trans (hsame.trans hnames'))
  · exact List.nodup_nil

/-! ## The text of the lines -/

/-- The files of the lines, each once. -/
def filesOf (found : List LineMatch) : List Path := (found.map (·.path)).eraseDups

/-- A line as it is printed. -/
def lineText (m : LineMatch) : String := s!"  Line {m.number}: {m.line}\n"

/-- The header of a file, and all its lines in their order. -/
def block (found : List LineMatch) (p : Path) : String :=
  s!"{p.text}:\n" ++ String.join ((found.filter (·.path == p)).map lineText)

/-- The blocks of all files. -/
def blocks (found : List LineMatch) : String := Text.join "\n" ((filesOf found).map (block found))

/-- The lines of a file stand together. -/
def Grouped (found : List LineMatch) : Prop :=
  ∀ a b c, [a, b, c].Sublist found → a.path = c.path → b.path = a.path

/-- The lines of the other files. -/
def others (p : Path) (found : List LineMatch) : List LineMatch :=
  found.filter fun m => !(m.path == p)

/-- What separates blocks from those that follow. -/
def gap (found : List LineMatch) : String := if found = [] then "" else "\n"

theorem filesOf_cons (m : LineMatch) (found : List LineMatch) :
    filesOf (m :: found) = m.path :: filesOf (others m.path found) := by
  rw [filesOf, List.map_cons, List.eraseDups_cons, filesOf, others, List.filter_map]
  rfl

theorem mem_filesOf : p ∈ filesOf found ↔ ∃ m ∈ found, m.path = p := by
  rw [filesOf, List.mem_eraseDups, List.mem_map]

/-- No file has two blocks. -/
theorem nodup_filesOf (found : List LineMatch) : (filesOf found).Nodup := by
  induction hlength : found.length using Nat.strongRecOn generalizing found with
  | ind n ih =>
    cases found with
    | nil => exact List.nodup_nil
    | cons m found =>
      have hle : (others m.path found).length ≤ found.length := List.length_filter_le _ _
      rw [List.length_cons] at hlength
      rw [filesOf_cons]
      refine List.nodup_cons.mpr ⟨fun hmem => ?_, ih _ (by omega) _ rfl⟩
      obtain ⟨m', hm', hpath⟩ := mem_filesOf.mp hmem
      simpa [hpath] using (List.mem_filter.mp hm').2

theorem block_others {q : Path} (hq : q ≠ p) (found : List LineMatch) :
    block (others p found) q = block found q := by
  have hfilter : (others p found).filter (·.path == q) = found.filter (·.path == q) := by
    rw [others, List.filter_filter]
    refine List.filter_congr fun m _ => ?_
    by_cases h : m.path = q
    · simp [h, hq]
    · simp [h]
  rw [block, block, hfilter]

/-- The blocks are that of the first file and those of the others. -/
theorem blocks_cons (m : LineMatch) (found : List LineMatch) : blocks (m :: found) =
    block (m :: found) m.path ++ (gap (others m.path found) ++ blocks (others m.path found)) := by
  have hothers : (filesOf (others m.path found)).map (block (m :: found)) =
      (filesOf (others m.path found)).map (block (others m.path found)) := by
    refine List.map_congr_left fun q hq => ?_
    obtain ⟨m', hm', rfl⟩ := mem_filesOf.mp hq
    have hne : m'.path ≠ m.path := by simpa using (List.mem_filter.mp hm').2
    rw [block_others hne, block, block, List.filter_cons_of_neg (by simpa using hne.symm)]
  rw [blocks, filesOf_cons, List.map_cons, hothers, gap, blocks]
  split_ifs with hnone
  · rw [hnone]
    simp [filesOf, Text.join]
  · have hne : (filesOf (others m.path found)).map (block (others m.path found)) ≠ [] := by
      obtain ⟨m', hm'⟩ := List.exists_mem_of_ne_nil _ hnone
      exact List.ne_nil_of_mem (List.mem_map_of_mem (mem_filesOf.mpr ⟨m', hm', rfl⟩))
    rw [Text.join, String.intercalate_cons_of_ne_nil hne, Text.join, String.append_assoc]

theorem Grouped.tail (h : Grouped (m :: found)) : Grouped found :=
  fun a b c hsub => h a b c (hsub.cons m)

/-- A first line's file has its other lines in front of those of other files. -/
theorem Grouped.head (h : Grouped (m :: found)) {b c : LineMatch} (hsub : [b, c].Sublist found)
    (hc : c.path = m.path) : b.path = m.path :=
  h m b c (hsub.cons_cons m) hc.symm

/-- The lines after one of a file are its other lines and the blocks of the other files. -/
theorem renderLines_some (hfound : Grouped found)
    (hfirst : ∀ b c, [b, c].Sublist found → c.path = p → b.path = p) : renderLines (some p) found =
      String.join ((found.filter (·.path == p)).map lineText) ++
        (gap (others p found) ++ blocks (others p found)) := by
  induction found generalizing p with
  | nil => rfl
  | cons m found ih =>
    have hrest := ih (p := m.path) hfound.tail fun b c => hfound.head
    by_cases hm : m.path = p
    · subst hm
      have hsame : others m.path (m :: found) = others m.path found := by simp [others]
      rw [hsame, List.filter_cons_of_pos (by simp), List.map_cons, String.join_cons,
        String.append_assoc, ← hrest]
      simp [renderLines, lineText]
    · -- No line of the file before follows.
      have hnone : ∀ m' ∈ m :: found, m'.path ≠ p := by
        intro m' hm' hpath
        rcases List.mem_cons.mp hm' with rfl | hm'
        · exact hm hpath
        · exact hm (hfirst m m' ((List.singleton_sublist.mpr hm').cons_cons m) hpath)
      have hall : others p (m :: found) = m :: found :=
        List.filter_eq_self.mpr fun m' hm' => by simpa using hnone m' hm'
      have hfilter : (m :: found).filter (·.path == p) = [] :=
        List.filter_eq_nil_iff.mpr fun m' hm' => by simpa using hnone m' hm'
      have hother : (some p == some m.path) = false := by simpa using Ne.symm hm
      rw [hall, hfilter, blocks_cons, block, List.filter_cons_of_pos (by simp), gap]
      simp [renderLines, hrest, hother, lineText, String.append_assoc]
      rfl

/-- **The text has one block for each file.** -/
theorem renderLines_none (hfound : Grouped found) : renderLines none found = blocks found := by
  cases found with
  | nil => rfl
  | cons m found =>
    rw [blocks_cons, block, List.filter_cons_of_pos (by simp), renderLines,
      renderLines_some hfound.tail fun b c => hfound.head]
    simp [lineText, String.append_assoc]
    rfl

/-! ## The lines that are shown -/

/-- Lines are in order, and the lines of one file know one time. -/
structure Ordered (found : List LineMatch) : Prop where
  sorted : found.Pairwise fun a b => compareLines a b = .lt
  modified : ∀ a ∈ found, ∀ b ∈ found, a.path = b.path → a.modified = b.modified

theorem modified_le {a b : LineMatch} (h : compareLines a b = .lt) : b.modified ≤ a.modified := by
  rcases Ordering.then_eq_lt.mp h with h | ⟨h, -⟩
  · exact Nat.le_of_lt (Nat.compare_eq_lt.mp h)
  · exact Nat.le_of_eq (Nat.compare_eq_eq.mp h)

/-- Of files that were written at the same time, the first by path stands first. -/
theorem path_le {a b : LineMatch} (hmodified : a.modified = b.modified)
    (h : compareLines a b = .lt) :
    (a.path.order b.path).isLE := by
  rw [compareLines, hmodified, Std.ReflOrd.compare_self, Ordering.eq_then] at h
  rcases Ordering.then_eq_lt.mp h with h | ⟨h, -⟩ <;> simp [h]

theorem Ordered.sublist {shown : List LineMatch} (h : Ordered found) (hsub : shown.Sublist found) :
    Ordered shown :=
  ⟨h.sorted.sublist hsub, fun a ha b hb => h.modified a (hsub.subset ha) b (hsub.subset hb)⟩

/-- **Files stand together in the order**, even those that were written at the same time. -/
theorem Ordered.grouped (h : Ordered found) : Grouped found := by
  intro a b c hsub hac
  obtain ⟨hsorted, hmodified⟩ := h.sublist hsub
  obtain ⟨ha, hb⟩ := List.pairwise_cons.mp hsorted
  have hab := ha b (by simp)
  have hbc := List.rel_of_pairwise_cons hb (List.mem_singleton.mpr rfl)
  have htimes : a.modified = c.modified := hmodified a (by simp) c (by simp) hac
  have hle : b.modified ≤ a.modified := modified_le hab
  have hle' : c.modified ≤ b.modified := modified_le hbc
  have hfirst : (a.path.order b.path).isLE := path_le (by omega) hab
  have hlast : (b.path.order a.path).isLE := hac ▸ path_le (by omega) hbc
  exact (Path.eq_of_isLE hfirst hlast).symm

/-- The lines of a file stand in the order of their numbers. -/
theorem Ordered.ascending (h : Ordered found) (p : Path) :
    (found.filter (·.path == p)).Pairwise fun a b => a.number < b.number := by
  obtain ⟨hsorted, hmodified⟩ := h.sublist (List.filter_sublist (p := (·.path == p)))
  refine hsorted.imp_of_mem fun {a b} ha hb hlt => ?_
  have hpath : a.path = b.path := by
    have ha := (List.mem_filter.mp ha).2
    have hb := (List.mem_filter.mp hb).2
    simp only [beq_iff_eq] at ha hb
    rw [ha, hb]
  have htimes := hmodified a ha b hb hpath
  simpa [compareLines, htimes, hpath, Nat.compare_eq_lt] using hlt

/-- What is shown is in order. -/
theorem ordered_ranked (hnames : (cs.map (·.names)).Nodup) :
    Ordered (ranked limit (searchAmong root regex patterns cs)).1 := by
  obtain ⟨all, hsorted, hmem, hr⟩ := ranking_searchAmong root regex patterns limit hnames
  have hall : Ordered all := ⟨hsorted, fun a ha b hb => modified_of_path hnames
    ((mem_searchAmong_iff a).mpr ((hmem a).mp ha)) ((mem_searchAmong_iff b).mpr ((hmem b).mp hb))⟩
  rw [hr]
  exact hall.sublist (List.take_sublist _ _)

theorem wantedPatterns_congr {wanted wanted' : String}
    (h : ∀ p, p ∈ Glob.expandBraces wanted ↔ p ∈ Glob.expandBraces wanted') (p : Glob.Pattern) :
    p ∈ wantedPatterns (some wanted) ↔ p ∈ wantedPatterns (some wanted') := by
  simp only [wantedPatterns, List.mem_filterMap, h]

/-- **What is shown of a text search**: a count, one block for each file, and whether there is more.
-/
theorem render_eq (hfound : Grouped found) (truncated : Bool) : render found truncated =
    s!"Found {found.length} matches\n" ++ Text.join "\n" ((filesOf found).map (block found)) ++
      (if truncated then
        "\n(Results are truncated. Consider using a more specific path or pattern.)" else "") := by
  rw [render, renderLines_none hfound, blocks]

/-- The text of lines has one block for each file, with its lines in ascending order. -/
structure InBlocks (found : List LineMatch) : Prop where
  text : ∀ truncated, render found truncated =
    s!"Found {found.length} matches\n" ++ Text.join "\n" ((filesOf found).map (block found)) ++
      (if truncated then
        "\n(Results are truncated. Consider using a more specific path or pattern.)" else "")
  once : (filesOf found).Nodup
  ascending : ∀ p, (found.filter (·.path == p)).Pairwise fun a b => a.number < b.number

theorem Ordered.inBlocks (h : Ordered found) : InBlocks found :=
  ⟨render_eq h.grouped, nodup_filesOf found, h.ascending⟩

/-- The lines that are shown are settled by the set of the files that are reported, each of them
once. -/
structure Settled (files : FileTree) (root : Path) (limit : Nat) : Prop where
  /-- They are the first of the lines that match. -/
  first : ∀ regex patterns cs, (cs.map Candidate.names).Nodup →
    Ranking compareLines (Matching root regex patterns cs) limit
      (ranked limit (searchAmong root regex patterns cs))
  /-- They do not depend on the order of the reports or on that of the patterns. -/
  unordered : ∀ regex patterns patterns' cs cs', (cs.map Candidate.names).Nodup → cs.Perm cs' →
    (∀ p, p ∈ patterns ↔ p ∈ patterns') →
      ranked limit (searchAmong root regex patterns cs) =
        ranked limit (searchAmong root regex patterns' cs')
  /-- Their text has one block for each file. -/
  inBlocks : ∀ regex patterns cs, (cs.map Candidate.names).Nodup →
    InBlocks (ranked limit (searchAmong root regex patterns cs)).1
  /-- A search shows the first of the lines below its root. -/
  search : ∀ regex patterns, Ranking compareLines
    (Matching root regex patterns (candidates files root))
    limit (ranked limit (search files root regex patterns))
  /-- The order of alternatives in a pattern makes no difference, nor does one that is repeated. -/
  alternatives : ∀ regex wanted wanted',
    (∀ p, p ∈ Glob.expandBraces wanted ↔ p ∈ Glob.expandBraces wanted') →
      answer files root regex (some wanted) = answer files root regex (some wanted')

theorem settled {files : FileTree} (h : files.nodes.keys.Nodup) (root : Path) (limit : Nat) :
    Settled files root limit where
  first regex patterns _ hnames := ranking_searchAmong root regex patterns limit hnames
  unordered _ _ _ _ _ hnames hperm := ranked_congr hnames hperm
  inBlocks _ _ _ hnames := (ordered_ranked hnames).inBlocks
  search regex patterns := ranking_searchAmong root regex patterns limit (nodup_candidates h root)
  alternatives regex wanted wanted' halternatives := by
    rw [answer, answer, search_eq, search_eq, ranked_congr (nodup_candidates h root) (.refl _)
      (wantedPatterns_congr halternatives)]

end AgentDesk.ContentSearch
