import AgentDesk.Proofs.Rankings
import AgentDesk.Workbench.FileSearch
import Mathlib.Data.List.Nodup
/-!
# Files found by name

A search by name lists the first of the files that its pattern leads to. It does not matter in which
order they are reported, nor how often.

Two trails may lead to one path in different spellings, such as `a` and `./a`. They are one file,
which is listed in the spelling that was reported first.

## Main definitions

* `FileSearch.compareFiles` — the order of the list.
* `FileSearch.findAmong` — what is found when trails are reported.
* `FileSearch.Matching` — what is to be listed.
* `FileSearch.Settled` — the list is settled by the set of what is reported.
-/

namespace AgentDesk.FileSearch

variable {files : FileTree} {root : Path} {limit : Nat} {reports reports' : List Glob.Trail}
  {hits kept : List Hit} {h : Hit} {p : Path}

/-- The order of files with the times when they were last written: the latest first, then by path.
-/
def compareFiles (a b : Path × Nat) : Ordering := (compare b.2 a.2).then (a.1.order b.1)

/-- The file that was found, with its time. -/
def Hit.file (h : Hit) : Path × Nat := (h.path, h.modified)

/-- The trails that the alternatives of a pattern lead to, as often as they do. -/
def reported (files : FileTree) (root : Path) (pattern : String) : List Glob.Trail :=
  (Glob.expandBraces pattern).flatMap fun p =>
    Glob.search files Glob.strict (patternRoot root ++ "/" ++ p)

/-- The files that are found when these trails are reported. -/
def findAmong (files : FileTree) (root : Path) (reports : List Glob.Trail) : List Hit :=
  distinct (reports.filterMap (hit? files root))

/-- The list of files, with their times, and whether there are more. -/
def listed (limit : Nat) (hits : List Hit) : List (Path × Nat) × Bool :=
  ((ranked limit hits).1.map Hit.file, (ranked limit hits).2)

/-- A path is reported, it is not hidden below the root, and a file lies there. -/
structure Matching (files : FileTree) (root : Path) (reports : List Glob.Trail) (m : Path × Nat) :
    Prop where
  reported : m.1 ∈ reports.map (·.path)
  visible : root.isHiddenBelow m.1 = false
  isFile : ∃ content, files.find m.1 = .ok (.file content m.2)

theorem find_eq (files : FileTree) (root : Path) (pattern : String) :
    find files root pattern = findAmong files root (reported files root pattern) := rfl

instance : Std.TransCmp compareFiles :=
  inferInstanceAs (Std.TransCmp (compareLex (fun a b : Path × Nat => compareOn Prod.snd b a)
    (compareOn Prod.fst)))

theorem precedes_eq (a b : Hit) : precedes a b = (compareFiles a.file b.file).isLE := by
  rw [compareFiles, isLE_compare_then]
  rfl

theorem eq_of_compareFiles {a b : Path × Nat} (h : compareFiles a b = .eq) : a.1 = b.1 :=
  Path.order_eq_eq_iff.mp (Ordering.then_eq_eq.mp h).2

/-! ## Files without those that were found before -/

/-- The files kept so far and one more, unless one of them has its path. -/
def keep (kept : List Hit) (h : Hit) : List Hit :=
  if kept.any (·.path == h.path) then kept else h :: kept

theorem distinct_eq (hits : List Hit) : distinct hits = (hits.foldl keep []).reverse := rfl

theorem keep_of_mem (h' : h.path ∈ kept.map (·.path)) : keep kept h = kept := by
  obtain ⟨g, hg, hpath⟩ := List.mem_map.mp h'
  exact if_pos (List.any_eq_true.mpr ⟨g, hg, by simpa using hpath⟩)

theorem keep_of_notMem (h' : h.path ∉ kept.map (·.path)) : keep kept h = h :: kept := by
  refine if_neg fun hany => h' ?_
  obtain ⟨g, hg, hpath⟩ := List.any_eq_true.mp hany
  exact List.mem_map.mpr ⟨g, hg, by simpa using hpath⟩

/-- Of the files that have one path, the first is kept. -/
structure Kept (hits kept all : List Hit) : Prop where
  nodup : (all.map (·.path)).Nodup
  mem : ∀ h ∈ all, h ∈ kept ∨ h ∈ hits
  paths : ∀ p, p ∈ all.map (·.path) ↔ p ∈ kept.map (·.path) ∨ p ∈ hits.map (·.path)

theorem kept_foldl (hits : List Hit) (hkept : (kept.map (·.path)).Nodup) :
    Kept hits kept (hits.foldl keep kept) := by
  induction hits generalizing kept with
  | nil => exact ⟨hkept, fun h => .inl, fun p => by simp⟩
  | cons g hits ih =>
    rw [List.foldl_cons]
    by_cases hg : g.path ∈ kept.map (·.path)
    · rw [keep_of_mem hg]
      obtain ⟨hnodup, hmem, hpaths⟩ := ih hkept
      refine ⟨hnodup, fun h hh => (hmem h hh).imp_right (List.mem_cons_of_mem _), fun p => ?_⟩
      rw [hpaths, List.map_cons, List.mem_cons]
      constructor
      · exact Or.imp_right .inr
      · rintro (hp | rfl | hp)
        · exact .inl hp
        · exact .inl hg
        · exact .inr hp
    · rw [keep_of_notMem hg]
      have hmore : ((g :: kept).map (·.path)).Nodup := List.nodup_cons.mpr ⟨hg, hkept⟩
      obtain ⟨hnodup, hmem, hpaths⟩ := ih hmore
      refine ⟨hnodup, fun h hh => ?_, fun p => ?_⟩
      · rcases hmem h hh with hh | hh
        · exact (List.mem_cons.mp hh).elim (fun heq => .inr (heq ▸ List.mem_cons_self)) .inl
        · exact .inr (List.mem_cons_of_mem _ hh)
      · rw [hpaths, List.map_cons, List.map_cons, List.mem_cons, List.mem_cons]
        tauto

theorem kept_distinct (hits : List Hit) : Kept hits [] (distinct hits) := by
  have hnone : (([] : List Hit).map (·.path)).Nodup := List.nodup_nil
  obtain ⟨hnodup, hmem, hpaths⟩ := kept_foldl hits hnone
  rw [distinct_eq]
  refine ⟨?_, fun h hh => hmem h (List.mem_reverse.mp hh), fun p => ?_⟩
  · rwa [List.map_reverse, List.nodup_reverse]
  · rw [List.map_reverse, List.mem_reverse, hpaths]

/-! ## What is found -/

theorem hit?_eq_some_iff {t : Glob.Trail} : hit? files root t = some h ↔
    h.text = t.text ∧ h.path = t.path ∧ root.isHiddenBelow t.path = false ∧
      ∃ content, files.find t.path = .ok (.file content h.modified) := by
  unfold hit?
  split_ifs with hhidden
  · simp [hhidden]
  · have hvisible : root.isHiddenBelow t.path = false := by simpa using hhidden
    split
    · rename_i content modified hfind
      rw [Option.some.injEq]
      constructor
      · rintro rfl
        exact ⟨rfl, rfl, hvisible, content, hfind⟩
      · rintro ⟨htext, hpath, -, content', hfind'⟩
        rw [hfind] at hfind'
        cases h
        simp_all
    · rename_i hnone
      simp only [reduceCtorEq, false_iff]
      rintro ⟨-, -, -, content, hfind⟩
      exact hnone content h.modified hfind

theorem matching_of_mem (hh : h ∈ findAmong files root reports) :
    Matching files root reports h.file ∧ ∃ t ∈ reports, h.text = t.text ∧ h.path = t.path := by
  rcases (kept_distinct _).mem h hh with hh | hh
  · cases hh
  · obtain ⟨t, ht, hhit⟩ := List.mem_filterMap.mp hh
    obtain ⟨htext, hpath, hvisible, hfile⟩ := hit?_eq_some_iff.mp hhit
    rw [← hpath] at hvisible hfile
    exact ⟨⟨List.mem_map.mpr ⟨t, ht, hpath.symm⟩, hvisible, hfile⟩, t, ht, htext, hpath⟩

/-- What is found does not depend on how often it is reported. -/
theorem mem_findAmong_iff (m : Path × Nat) :
    m ∈ (findAmong files root reports).map Hit.file ↔ Matching files root reports m := by
  constructor
  · intro hm
    obtain ⟨h, hh, rfl⟩ := List.mem_map.mp hm
    exact (matching_of_mem hh).1
  · rintro ⟨hreported, hvisible, content, hfind⟩
    obtain ⟨t, ht, hpath⟩ := List.mem_map.mp hreported
    have hhit : hit? files root t = some ⟨t.text, t.path, m.2⟩ :=
      hit?_eq_some_iff.mpr ⟨rfl, rfl, hpath ▸ hvisible, content, hpath ▸ hfind⟩
    have hfound : m.1 ∈ (findAmong files root reports).map (·.path) :=
      ((kept_distinct _).paths m.1).mpr (.inr (List.mem_map.mpr
        ⟨_, List.mem_filterMap.mpr ⟨t, ht, hhit⟩, hpath⟩))
    obtain ⟨h, hh, hsame⟩ := List.mem_map.mp hfound
    obtain ⟨content', hfind'⟩ := (matching_of_mem hh).1.isFile
    have hmodified : m.2 = h.modified := by
      simp only [Hit.file, hsame, hfind] at hfind'
      simp_all
    exact List.mem_map.mpr ⟨h, hh, Prod.ext hsame hmodified.symm⟩

/-- **The list holds the first of the files that match.** -/
theorem ranking_listed (files : FileTree) (root : Path) (limit : Nat) (reports : List Glob.Trail) :
    Ranking compareFiles (Matching files root reports) limit
      (listed limit (findAmong files root reports)) := by
  have hpaths : ((findAmong files root reports).map Hit.file).Pairwise fun a b =>
      compareFiles a b ≠ .eq := by
    refine List.pairwise_map.mpr ((List.pairwise_map.mp (kept_distinct _).nodup).imp ?_)
    exact fun hne heq => hne (eq_of_compareFiles heq)
  have hsort : listed limit (findAmong files root reports) =
      ((((findAmong files root reports).map Hit.file).mergeSort fun a b =>
        (compareFiles a b).isLE).take limit,
          decide (limit < ((findAmong files root reports).map Hit.file).length)) := by
    rw [← List.map_mergeSort fun a _ b _ => precedes_eq a b, List.length_map, ← List.map_take]
    rfl
  rw [hsort]
  exact (Ranking.of_mergeSort (fun _ _ => rfl) hpaths).congr mem_findAmong_iff

theorem Matching.congr (h : ∀ p, p ∈ reports.map (·.path) ↔ p ∈ reports'.map (·.path))
    (m : Path × Nat) : Matching files root reports m ↔ Matching files root reports' m :=
  ⟨fun hm => ⟨(h _).mp hm.reported, hm.visible, hm.isFile⟩,
    fun hm => ⟨(h _).mpr hm.reported, hm.visible, hm.isFile⟩⟩

/-- Files that have one spelling each are listed with it. -/
theorem ranked_eq_of_listed {hits hits' : List Hit} {spell : Path → String}
    (hspell : ∀ h ∈ hits, h.text = spell h.path) (hspell' : ∀ h ∈ hits', h.text = spell h.path)
    (h : listed limit hits = listed limit hits') : ranked limit hits = ranked limit hits' := by
  have hback {hits : List Hit} (hspell : ∀ h ∈ hits, h.text = spell h.path) :
      (ranked limit hits).1 = (listed limit hits).1.map fun m => ⟨spell m.1, m.1, m.2⟩ := by
    rw [listed, List.map_map]
    refine (List.map_id _).symm.trans (List.map_congr_left fun h hh => ?_)
    rw [id_eq, Function.comp_apply, Hit.file,
      ← hspell h (List.mem_mergeSort.mp (List.mem_of_mem_take hh))]
  have htruncated : (listed limit hits).2 = (listed limit hits').2 := by rw [h]
  exact Prod.ext (by rw [hback hspell, hback hspell', h]) htruncated

/-- The list of files is that of the set of the reported paths, in whichever order and however often
they are reported. Files that have one spelling are listed with it. -/
theorem listed_congr (h : ∀ p, p ∈ reports.map (·.path) ↔ p ∈ reports'.map (·.path)) :
    listed limit (findAmong files root reports) = listed limit (findAmong files root reports') ∧
      ∀ spell : Path → String, (∀ t ∈ reports ++ reports', t.text = spell t.path) →
        ranked limit (findAmong files root reports) =
          ranked limit (findAmong files root reports') := by
  have hlisted := ((ranking_listed files root limit reports).congr (Matching.congr h)).unique
    (ranking_listed files root limit reports')
  refine ⟨hlisted, fun spell hspell => ?_⟩
  have hfound {own : List Glob.Trail} (hown : ∀ t ∈ own, t.text = spell t.path) :
      ∀ h ∈ findAmong files root own, h.text = spell h.path := by
    intro h hh
    obtain ⟨-, t, ht, htext, hpath⟩ := matching_of_mem hh
    rw [htext, hpath, hown t ht]
  exact ranked_eq_of_listed (hfound fun t ht => hspell t (List.mem_append_left _ ht))
    (hfound fun t ht => hspell t (List.mem_append_right _ ht)) hlisted

/-- Patterns with the same alternatives lead to the same paths. -/
theorem reported_congr {pattern pattern' : String}
    (h : ∀ p, p ∈ Glob.expandBraces pattern ↔ p ∈ Glob.expandBraces pattern') (p : Path) :
    p ∈ (reported files root pattern).map (·.path) ↔
      p ∈ (reported files root pattern').map (·.path) := by
  simp only [reported, List.mem_map, List.mem_flatMap, h]

/-- The list of files is settled by the set of what is reported. Lists are compared as lists of
locations: a file that two alternatives spell differently is one location, and the spelling in which
it is printed may differ in its dot steps with the order of the alternatives. -/
structure Settled (files : FileTree) (root : Path) (limit : Nat) : Prop where
  /-- It holds the first of the files that match, each once. -/
  first : ∀ reports, Ranking compareFiles (Matching files root reports) limit
    (listed limit (findAmong files root reports))
  /-- It does not depend on the order of the reports or on their number. Files that have one
  spelling are listed with it. -/
  unordered : ∀ reports reports' : List Glob.Trail,
    (∀ p, p ∈ reports.map (·.path) ↔ p ∈ reports'.map (·.path)) →
      listed limit (findAmong files root reports) = listed limit (findAmong files root reports') ∧
        ∀ spell : Path → String, (∀ t ∈ reports ++ reports', t.text = spell t.path) →
          ranked limit (findAmong files root reports) = ranked limit (findAmong files root reports')
  /-- A search lists the first of the files that it is led to. -/
  search : ∀ pattern, Ranking compareFiles (Matching files root (reported files root pattern)) limit
    (listed limit (find files root pattern))
  /-- The order of alternatives in a pattern makes no difference, nor does one that is repeated. -/
  alternatives : ∀ pattern pattern',
    (∀ p, p ∈ Glob.expandBraces pattern ↔ p ∈ Glob.expandBraces pattern') →
    listed limit (find files root pattern) = listed limit (find files root pattern')

theorem settled (files : FileTree) (root : Path) (limit : Nat) : Settled files root limit where
  first := ranking_listed files root limit
  unordered _ _ := listed_congr
  search pattern := ranking_listed files root limit (reported files root pattern)
  alternatives pattern pattern' h := by
    rw [find_eq, find_eq]
    exact (listed_congr (reported_congr h)).1

end AgentDesk.FileSearch
