import AgentDesk.Proofs.Tables
import AgentDesk.Files
import Mathlib.Data.List.Nodup
/-!
# Walks through file trees

In a tree where each place is taken once, a directory has each name once, and a walk meets each
entry once.
-/

namespace AgentDesk.FileTree

variable {t : FileTree} {dir place : Place} {name : String} {wanted : String → FileNode → Bool}
  {start below : Place}

theorem nameIn?_eq_some_iff : nameIn? dir place = some name ↔ place = dir ++ [name] := by
  fun_induction nameIn? dir place with
  | case1 n => simp [eq_comm]
  | case2 d dir place ih => simpa using ih
  | case3 d dir p place hne => simp [Ne.symm hne]
  | case4 dir place hone hcons =>
    simp only [reduceCtorEq, false_iff]
    rintro rfl
    cases dir with
    | nil => exact hone name rfl rfl
    | cons d dir => exact hcons d dir d (dir ++ [name]) rfl rfl

/-- A directory has each name once. -/
theorem nodup_entries (h : t.nodes.keys.Nodup) (dir : Place) :
    ((t.entries dir).map (·.1)).Nodup := by
  rw [entries, ((List.mergeSort_perm _ _).map _).nodup_iff, List.Nodup, List.pairwise_map,
    List.pairwise_filterMap]
  refine (List.pairwise_map.mp h).imp fun {a b} hab x hx y hy hxy => hab ?_
  obtain ⟨n, hn, rfl⟩ := Option.map_eq_some_iff.mp hx
  obtain ⟨m, hm, rfl⟩ := Option.map_eq_some_iff.mp hy
  obtain rfl : n = m := hxy
  rw [nameIn?_eq_some_iff.mp hn, nameIn?_eq_some_iff.mp hm]

/-- What a walk meets at an entry of a directory and below it. -/
def branch (t : FileTree) (wanted : String → FileNode → Bool) (start : Place) (depth : Nat)
    (below : Place) (entry : String × FileNode) : List Entry :=
  if wanted entry.1 entry.2 then
    ⟨below ++ [entry.1], entry.2⟩ ::
      (if entry.2.isDirectory then t.walkFrom wanted start depth (below ++ [entry.1]) else [])
  else []

theorem walkFrom_succ (depth : Nat) (below : Place) : t.walkFrom wanted start (depth + 1) below =
    (t.entries (start ++ below)).flatMap (t.branch wanted start depth below) := rfl

variable {depth : Nat} {entry : String × FileNode} {e : Entry}

theorem mem_branch (h : e ∈ t.branch wanted start depth below entry) :
    e.names = below ++ [entry.1] ∨ e ∈ t.walkFrom wanted start depth (below ++ [entry.1]) := by
  unfold branch at h
  split_ifs at h
  · exact (List.mem_cons.mp h).imp (congrArg Entry.names) id
  · exact .inl (congrArg Entry.names (List.mem_singleton.mp h))
  · cases h

/-- Everything that a walk meets lies below its start. -/
theorem names_of_mem_walkFrom (h : e ∈ t.walkFrom wanted start depth below) :
    ∃ name rest, e.names = below ++ name :: rest := by
  induction depth generalizing below with
  | zero => cases h
  | succ depth ih =>
    rw [walkFrom_succ] at h
    obtain ⟨entry, -, h⟩ := List.mem_flatMap.mp h
    rcases mem_branch h with h | h
    · exact ⟨entry.1, [], h⟩
    · obtain ⟨name, rest, hnames⟩ := ih h
      exact ⟨entry.1, name :: rest, by rw [hnames, List.append_assoc]; rfl⟩

/-- Everything that a walk meets at an entry lies at the entry or below it. -/
theorem names_of_mem_branch (h : e ∈ t.branch wanted start depth below entry) :
    ∃ rest, e.names = below ++ entry.1 :: rest := by
  rcases mem_branch h with h | h
  · exact ⟨[], h⟩
  · obtain ⟨name, rest, hnames⟩ := names_of_mem_walkFrom h
    exact ⟨name :: rest, by rw [hnames, List.append_assoc]; rfl⟩

/-- **A walk meets each entry once.** -/
theorem nodup_walkFrom (h : t.nodes.keys.Nodup) (depth : Nat) (below : Place) :
    ((t.walkFrom wanted start depth below).map (·.names)).Nodup := by
  induction depth generalizing below with
  | zero => exact List.nodup_nil
  | succ depth ih =>
    rw [walkFrom_succ, List.map_flatMap, List.nodup_flatMap]
    refine ⟨fun entry _ => ?_, (List.pairwise_map.mp (nodup_entries h (start ++ below))).imp ?_⟩
    · -- An entry lies above what is below it.
      unfold branch
      split_ifs
      · refine List.nodup_cons.mpr ⟨fun hmem => ?_, ih _⟩
        obtain ⟨e, he, hnames⟩ := List.mem_map.mp hmem
        obtain ⟨name, rest, hbelow⟩ := names_of_mem_walkFrom he
        simp [hbelow] at hnames
      · exact List.nodup_singleton _
      · exact List.nodup_nil
    · -- What lies below one name does not lie below another one.
      intro one other hne names hone hother
      obtain ⟨e, he, rfl⟩ := List.mem_map.mp hone
      obtain ⟨e', he', hsame⟩ := List.mem_map.mp hother
      obtain ⟨rest, hnames⟩ := names_of_mem_branch he
      obtain ⟨rest', hnames'⟩ := names_of_mem_branch he'
      rw [hnames, hnames', List.append_cancel_left_eq, List.cons.injEq] at hsame
      exact hne hsame.1.symm

end AgentDesk.FileTree
