import AgentDesk.ToolBox
import Mathlib.Data.String.Basic
/-!
# What a tool box holds

A box that is filled by putting in one tool after another holds at most one tool under a name, and
its names ascend. A tool that is put in is found under its name, and all others are found as before.

## Main definitions

* `ToolBox.Ordered` — the names of a box ascend.
-/

namespace AgentDesk.ToolBox

variable {α : Type} {b : ToolBox α} {info : ToolInfo} {tool : α} {t : BoxedTool α}
  {tools : List (BoxedTool α)} {name : String} {allowed : List String}

/-- The names of a box ascend, so that none occurs twice. -/
def Ordered (b : ToolBox α) : Prop := b.names.Pairwise (· < ·)

/-! ## Putting in a tool -/

theorem mem_names_insert : name ∈ (insert t tools).map (·.info.name) ↔
    name = t.info.name ∨ name ∈ tools.map (·.info.name) := by
  induction tools with
  | nil => simp [insert]
  | cons u rest ih =>
    rw [insert]
    split_ifs with hsame hbefore
    · simp [beq_iff_eq.mp hsame]
    · simp
    · simp only [List.map_cons, List.mem_cons, ih]
      exact or_left_comm

theorem mem_names_register :
    name ∈ (b.register info tool).names ↔ name = info.name ∨ name ∈ b.names := mem_names_insert

theorem ordered_insert (h : (tools.map (·.info.name)).Pairwise (· < ·)) :
    ((insert t tools).map (·.info.name)).Pairwise (· < ·) := by
  induction tools with
  | nil => simp [insert]
  | cons u rest ih =>
    obtain ⟨hfirst, hrest⟩ := List.pairwise_cons.mp h
    rw [insert]
    split_ifs with hsame hbefore
    · rw [List.map_cons, beq_iff_eq.mp hsame]
      exact h
    · refine List.pairwise_cons.mpr ⟨fun name hname => ?_, h⟩
      rcases List.mem_cons.mp hname with rfl | hname
      · exact hbefore
      · exact hbefore.trans (hfirst name hname)
    · -- The names differ, so the one that is put in belongs behind the first.
      have hbehind : u.info.name < t.info.name :=
        lt_of_le_of_ne (not_lt.mp hbefore) fun heq => hsame (beq_iff_eq.mpr heq.symm)
      refine List.pairwise_cons.mpr ⟨fun name hname => ?_, ih hrest⟩
      rcases mem_names_insert.mp hname with rfl | hname
      · exact hbehind
      · exact hfirst name hname

theorem Ordered.register (h : b.Ordered) (info : ToolInfo) (tool : α) :
    (b.register info tool).Ordered := ordered_insert h

/-- A box that is made of given tools is ordered. -/
theorem ordered_ofList (tools : List (ToolInfo × α)) : (ofList tools).Ordered := by
  have hfold (b : ToolBox α) (h : b.Ordered) :
      (tools.foldl (fun b t => b.register t.1 t.2) b).Ordered := by
    induction tools generalizing b with
    | nil => exact h
    | cons t tools ih => exact ih _ (h.register t.1 t.2)
  exact hfold empty List.Pairwise.nil

theorem get?_register_self (b : ToolBox α) (info : ToolInfo) (tool : α) :
    (b.register info tool).get? info.name = some tool := by
  have hinsert (tools : List (BoxedTool α)) :
      (insert ⟨info, tool⟩ tools).find? (·.info.name == info.name) = some ⟨info, tool⟩ := by
    induction tools with
    | nil => simp [insert]
    | cons u rest ih =>
      rw [insert]
      split_ifs with hsame hbefore
      · simp
      · simp
      · have hne : u.info.name ≠ info.name := fun heq => hsame (beq_iff_eq.mpr heq.symm)
        simpa [hne] using ih
  rw [get?, register, hinsert]
  rfl

theorem get?_register_of_ne (h : name ≠ info.name) (b : ToolBox α) (tool : α) :
    (b.register info tool).get? name = b.get? name := by
  have hne : info.name ≠ name := Ne.symm h
  have hinsert (tools : List (BoxedTool α)) :
      (insert ⟨info, tool⟩ tools).find? (·.info.name == name) =
        tools.find? (·.info.name == name) := by
    induction tools with
    | nil => simpa [insert] using hne
    | cons u rest ih =>
      rw [insert]
      split_ifs with hsame hbefore
      · have hfirst : u.info.name ≠ name := by rwa [← beq_iff_eq.mp hsame]
        simp [hne, hfirst]
      · simp [hne]
      · rw [List.find?_cons, List.find?_cons, ih]
  rw [get?, register, hinsert]
  rfl

/-! ## Leaving out tools -/

theorem mem_names_only : name ∈ (b.only allowed).names ↔ name ∈ b.names ∧ name ∈ allowed := by
  simp only [names, only, List.mem_map, List.mem_filter, List.elem_eq_mem, decide_eq_true_eq]
  constructor
  · rintro ⟨t, ⟨ht, hallowed⟩, rfl⟩
    exact ⟨⟨t, ht, rfl⟩, hallowed⟩
  · rintro ⟨⟨t, ht, rfl⟩, hallowed⟩
    exact ⟨t, ⟨ht, hallowed⟩, rfl⟩

theorem Ordered.only (h : b.Ordered) (allowed : List String) : (b.only allowed).Ordered :=
  h.sublist (List.filter_sublist.map _)

theorem get?_only_of_mem (h : name ∈ allowed) : (b.only allowed).get? name = b.get? name := by
  rw [get?, only, List.find?_filter, get?]
  congr 2
  funext t
  by_cases hname : t.info.name = name <;> simp [hname, h]

end AgentDesk.ToolBox
