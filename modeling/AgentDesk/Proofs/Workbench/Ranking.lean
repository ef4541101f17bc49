import AgentDesk.Proofs.Files
import AgentDesk.Proofs.Workbench.FileRanking
import AgentDesk.Proofs.Workbench.LineRanking
/-!
# What searches show

What a search shows is determined by the set of what there is to be found: neither the order in
which directories and the alternatives of a pattern are gone through nor the number of times that a
file is reported makes a difference.
-/

namespace AgentDesk

/-- **What searches show is determined by what there is to be found.** The list of files is the
first of those that are reported, each once, whatever the order and the number of the reports; two
patterns with the same alternatives list the same files. The lines that are shown are the first of
those that match, whatever the order in which the files are reported, and two patterns with the same
alternatives have the same answer. The text has one block for each file, with its lines in ascending
order. -/
theorem shown_by_set {files : FileTree} (hplaces : files.nodes.keys.Nodup) (root : Path)
    (limit : Nat) :
    FileSearch.Settled files root limit ∧ ContentSearch.Settled files root limit :=
  ⟨FileSearch.settled files root limit, ContentSearch.settled hplaces root limit⟩

/-- A file that is reported twice is listed once, and two files are searched in either order. -/
theorem shown_by_set_oneFile :
    FileSearch.listed 1 (FileSearch.findAmong (FileTree.oneFile "x".toUTF8) (Path.ofNames ["w"])
        [⟨true, ["w", "f"]⟩, ⟨true, ["w", "f"]⟩]) = ([(Path.ofNames ["w", "f"], 5)], false) ∧
      ContentSearch.ranked 1 (ContentSearch.searchAmong (Path.ofNames ["w"]) .nothing []
          [⟨["f"], "x".toUTF8, 5⟩, ⟨["g"], "y".toUTF8, 5⟩]) =
        ContentSearch.ranked 1 (ContentSearch.searchAmong (Path.ofNames ["w"]) .nothing []
          [⟨["g"], "y".toUTF8, 5⟩, ⟨["f"], "x".toUTF8, 5⟩]) := by
  have hplaces : (FileTree.oneFile "x".toUTF8).nodes.keys.Nodup := by decide
  obtain ⟨hlisted, hranked⟩ := shown_by_set hplaces (Path.ofNames ["w"]) 1
  have hpath : Glob.Trail.path ⟨true, ["w", "f"]⟩ = Path.ofNames ["w", "f"] := by decide
  have hhit :
      FileSearch.hit? (FileTree.oneFile "x".toUTF8) (Path.ofNames ["w"]) ⟨true, ["w", "f"]⟩ =
      some ⟨"/w/f", Path.ofNames ["w", "f"], 5⟩ := by
    have hvisible : (Path.ofNames ["w"]).isHiddenBelow (Path.ofNames ["w", "f"]) = false := by
      simp [Path.isHiddenBelow, Path.below?, Path.ofNames, Text.dropPrefix?, Path.isDotted]
    rw [FileSearch.hit?_eq_some_iff, hpath]
    exact ⟨by decide, rfl, hvisible, "x".toUTF8, FileTree.find_oneFile _⟩
  refine ⟨(hlisted.unordered _ [⟨true, ["w", "f"]⟩] fun p => by simp).1.trans ?_,
    hranked.unordered _ _ _ _ _ (by decide) (.swap ..) fun _ => Iff.rfl⟩
  rw [FileSearch.findAmong, List.filterMap_cons_some hhit]
  simp [FileSearch.listed, FileSearch.ranked, FileSearch.distinct, FileSearch.Hit.file]

end AgentDesk
