import AgentDesk.Proofs.Files
import AgentDesk.Proofs.Paths
import AgentDesk.Workbench.Terminal
/-!
# Where the tools of a workbench work

The shell starts in the working directory and finds a relative path from there, step by step. The
tools for files normalize the path first. Both mean the same place in a tree without links, unless
the path leads out of the directory where relative paths start.

## Main definitions

* `FileTree.LinkFree` — a tree without links.
-/

namespace AgentDesk

namespace FileTree

variable {t : FileTree} {path : Path} {place dir : Place} {steps : List PathStep} {links : Nat}
  {follow : Bool}

/-- Nothing in the tree is a link. -/
def LinkFree (t : FileTree) : Prop := ∀ place target, t.node? place ≠ some (.link target)

/-- **Without links a path leads to the place that it means.** -/
theorem LinkFree.locateFrom (h : t.LinkFree)
    (hlocate : t.locateFrom follow links dir steps = .ok place) :
    place = steps.foldl Place.enter dir := by
  fun_induction t.locateFrom follow links dir steps with
  | case1 links dir =>
    cases hlocate
    rfl
  | case2 links dir rest ih => exact ih hlocate
  | case3 links dir rest ih => exact ih hlocate
  | case5 links dir name rest hname hnode hrest =>
    cases hlocate
    rw [List.isEmpty_iff.mp hrest]
    rfl
  | case7 links dir name rest hname hnode ih => exact ih hlocate
  | case8 links dir name rest hname content modified hnode hrest =>
    cases hlocate
    rw [List.isEmpty_iff.mp hrest]
    rfl
  | case10 links dir name rest hname target hnode hrest => exact absurd hnode (h _ target)
  | case11 dir name rest hname target hnode hrest => exact absurd hnode (h _ target)
  | case12 dir name rest hname target hnode hrest links target' ih =>
    exact absurd hnode (h _ target)
  | _ => cases hlocate

theorem linkFree_empty (clock : Nat) : (empty clock).LinkFree := by
  intro place target
  cases place <;> nofun

theorem LinkFree.put (h : t.LinkFree) (hplace : place ≠ []) {node : FileNode}
    (hnode : ∀ target, node ≠ .link target) : (t.put place node).LinkFree := by
  intro other target
  by_cases hother : other = place
  · rw [hother, node?_put_self hplace]
    exact fun heq => hnode target (Option.some.inj heq)
  · rw [node?_put_of_ne hother]
    exact h other target

theorem LinkFree.locate (h : t.LinkFree) (hlocate : t.locate follow path = .ok place) :
    place = path.placeFrom t.origin := by
  rw [FileTree.locate] at hlocate
  split_ifs at hlocate with hzero hlong hempty habsolute
  · exact (h.locateFrom hlocate).trans (by rw [Path.placeFrom, if_pos habsolute])
  · exact (h.locateFrom hlocate).trans (by rw [Path.placeFrom, if_neg habsolute])

/-- A directory in another one, in which relative paths start. -/
def nested : FileTree :=
  { ((empty 5).put ["c"] .directory).put ["c", "w"] .directory with origin := ["c"] }

theorem linkFree_nested : nested.LinkFree :=
  LinkFree.put (LinkFree.put (linkFree_empty 5) (List.cons_ne_nil "c" []) (by simp))
    (List.cons_ne_nil "c" ["w"]) (by simp)

theorem locate_nested : nested.locate true (Path.parse "w") = .ok ["c", "w"] := by
  have hpath : Path.parse "w" = ⟨false, [.name "w"]⟩ := by decide
  rw [hpath, FileTree.locate, if_neg (by decide), if_neg (by decide), if_neg (by decide)]
  exact locateFrom_last (by decide) fun target => linkFree_nested _ target

end FileTree

namespace Terminal

variable {files : FileTree} {directory : Path} {command : String} {place : Place}

/-- The shell starts where its directory lies. -/
theorem locate_of_startPlace (h : startPlace files directory command = .ok place) :
    files.locate true directory = .ok place := by
  rw [startPlace] at h
  split at h
  · cases h
  · split at h
    · rename_i place' hfind hlocate
      split at h
      · cases h
        exact hlocate
      · cases h
    · cases h
    · cases h

/-- It starts in a directory that is found, if the command can be handed over. -/
theorem startPlace_of_find (hzero : command.toList.elem '\x00' = false)
    (hlength : command.utf8ByteSize < commandLimit)
    (hlocate : files.locate true directory = .ok place)
    (hdirectory : files.node? place = some .directory) :
    startPlace files directory command = .ok place := by
  have hfind := FileTree.find_eq_ok_iff.mpr ⟨place, hlocate, hdirectory⟩
  simp only [startPlace, hzero, Bool.false_eq_true, if_false, hfind, hlocate, hlength, if_true]

end Terminal

namespace Path

open Text (stripPrefix?)

/-- **Where a path lies is kept when it is normalized**, unless steps up are lost at its start. What
is left are names only, and they stay as they are; below a directory that is known from the root,
the path may be normalized before or after it is joined, unless it leaves the directory and that is
not the root; and a path that is given to a tool for files means what the shell in the working
directory finds, unless it leaves the directory where relative paths start. -/
theorem location_kept_iff (raw : String) :
    (∀ s ∈ (parse raw).normalize.steps, ∃ n, s = .name n ∧ n ≠ "" ∧ n ≠ "." ∧ n ≠ "..") ∧
    (parse raw).normalize.normalize = (parse raw).normalize ∧
    (∀ base : Path, base.absolute = true →
      ((base.join (parse raw)).normalize = (base.join (parse raw).normalize).normalize ↔
        ¬((parse raw).LeavesStart ∧ base.placeFrom [] ≠ []))) ∧
    (∀ (settings : WorkbenchSettings) (files : FileTree) (command : String) (place : Place),
      files.LinkFree → Terminal.startPlace files settings.directory command = .ok place →
      stripPrefix? "~/" raw = none →
      ((settings.resolve raw).placeFrom files.origin = (parse raw).placeFrom place ↔
        ¬((settings.directory.join (parse raw)).LeavesStart ∧ files.origin ≠ []))) := by
  refine ⟨fun s => mem_normalize_parse, normalize_normalize _, fun base => normalize_join_iff, ?_⟩
  intro settings files command place hfree hstart hraw
  have hplace := hfree.locate (Terminal.locate_of_startPlace hstart)
  have hlocated : located settings.home settings.directory raw =
      settings.directory.join (parse raw) := by
    cases settings.home <;> simp [located, hraw]
  rw [WorkbenchSettings.resolve, resolve, hlocated, hplace, ← placeFrom_join,
    placeFrom_normalize_iff]

/-- From `/c/w` two steps up lead to the root, but the tools for files look in `/c`. -/
theorem exists_location_lost : ∃ (settings : WorkbenchSettings) (files : FileTree) (place : Place),
    settings.directory = parse "w" ∧ files.origin = ["c"] ∧
    Terminal.startPlace files settings.directory "ls" = .ok place ∧
    (parse "../../x").placeFrom place = ["x"] ∧
    (settings.resolve "../../x").placeFrom files.origin ≠ ["x"] ∧
    ((ofNames ["a"]).join (parse "../../x")).normalize ≠
      ((ofNames ["a"]).join (parse "../../x").normalize).normalize ∧
    (root.join (parse "../../x")).normalize =
      (root.join (parse "../../x").normalize).normalize := by
  have hstart : Terminal.startPlace FileTree.nested (parse "w") "ls" = .ok ["c", "w"] :=
    Terminal.startPlace_of_find (by decide) (by decide) FileTree.locate_nested rfl
  have hmeant : (parse "../../x").placeFrom ["c", "w"] = ["x"] := by decide
  have hleaves : (parse "../../x").LeavesStart := leavesStart_iff.mpr ⟨by decide, by decide⟩
  have hleaves' : ((parse "w").join (parse "../../x")).LeavesStart :=
    leavesStart_iff.mpr ⟨by decide, by decide⟩
  obtain ⟨-, -, hjoin, hshell⟩ := location_kept_iff "../../x"
  have hlost := (hshell ⟨parse "w", none, [], 0⟩ FileTree.nested "ls" ["c", "w"]
    FileTree.linkFree_nested hstart (by decide)).not.mpr (not_not.mpr ⟨hleaves', by decide⟩)
  rw [hmeant] at hlost
  exact ⟨⟨parse "w", none, [], 0⟩, FileTree.nested, ["c", "w"], rfl, rfl, hstart, hmeant, hlost,
    (hjoin _ rfl).not.mpr (not_not.mpr ⟨hleaves, by decide⟩),
    (hjoin root rfl).mpr fun h => h.2 rfl⟩

end Path

end AgentDesk
