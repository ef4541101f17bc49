import AgentDesk.Table
/-!
# Tables and searches

A table whose values are changed alike is searched and extended alike. In a table whose keys are
distinct, putting a value is either an addition at the end or a change in place.
-/

namespace AgentDesk.Table

variable {κ : Type u} {ν : Type v} {ω : Type w} [BEq κ] {k : κ} {v : ν} {t : Table κ ν}

theorem mem_put {e : κ × ν} (h : e ∈ put k v t) : e = (k, v) ∨ e ∈ t := by
  induction t with
  | nil => exact .inl (List.mem_singleton.mp h)
  | cons e' t ih =>
    by_cases hk : e'.1 == k
    · simp only [put, hk, if_true, List.mem_cons] at h
      exact h.imp_right (List.mem_cons_of_mem _)
    · simp only [put, hk, Bool.false_eq_true, if_false, List.mem_cons] at h
      rcases h with rfl | h
      · exact .inr List.mem_cons_self
      · exact (ih h).imp_right (List.mem_cons_of_mem _)

theorem get?_of_mem [LawfulBEq κ] {e : κ × ν} (hkeys : t.keys.Nodup) (h : e ∈ t) :
    get? e.1 t = some e.2 := by
  induction t with
  | nil => cases h
  | cons e' t ih =>
    obtain ⟨hnotMem, hkeys⟩ := List.nodup_cons.mp hkeys
    rcases List.mem_cons.mp h with rfl | h
    · simp [get?]
    · have hne : ¬(e'.1 == e.1) = true := fun heq =>
        hnotMem (List.mem_map.mpr ⟨e, h, (eq_of_beq heq).symm⟩)
      rw [get?, if_neg hne, ih hkeys h]

/-! ## Changing all values -/

/-- A table with all values changed. -/
def mapValues (f : ν → ω) (t : Table κ ν) : Table κ ω := t.map fun e => (e.1, f e.2)

theorem get?_mapValues (f : ν → ω) (k : κ) (t : Table κ ν) :
    get? k (mapValues f t) = (get? k t).map f := by
  induction t with
  | nil => rfl
  | cons e t ih =>
    simp only [mapValues] at ih
    by_cases hk : e.1 == k <;> simp [mapValues, get?, hk, ih]

theorem put_mapValues (f : ν → ω) (k : κ) (v : ν) (t : Table κ ν) :
    mapValues f (put k v t) = put k (f v) (mapValues f t) := by
  induction t with
  | nil => rfl
  | cons e t ih =>
    simp only [mapValues] at ih
    by_cases hk : e.1 == k <;> simp [mapValues, put, hk, ih]

/-! ## Searching and changing in place -/

theorem get?_eq_find? (k : κ) (t : Table κ ν) :
    get? k t = (t.find? (·.1 == k)).map (·.2) := by
  induction t with
  | nil => rfl
  | cons e t ih => by_cases hk : e.1 == k <;> simp [get?, hk, ih]

theorem put_of_get?_none (h : get? k t = none) : put k v t = t ++ [(k, v)] := by
  induction t with
  | nil => rfl
  | cons e t ih =>
    by_cases hk : e.1 == k
    · simp [get?, hk] at h
    · simp only [get?, hk, Bool.false_eq_true, if_false] at h
      simp [put, hk, ih h]

theorem put_of_get?_some [LawfulBEq κ] (hkeys : t.keys.Nodup) (h : (get? k t).isSome) :
    put k v t = t.map fun e => if e.1 == k then (k, v) else e := by
  induction t with
  | nil => cases h
  | cons e t ih =>
    obtain ⟨hnotMem, hkeys⟩ := List.nodup_cons.mp hkeys
    by_cases hk : e.1 == k
    · -- The key does not occur again.
      have hrest : ∀ e' ∈ t, (e'.1 == k) = false := by
        intro e' he'
        rw [← eq_of_beq hk]
        refine beq_eq_false_iff_ne.mpr fun heq => hnotMem ?_
        exact List.mem_map.mpr ⟨e', he', heq⟩
      have hsame : (t.map fun e => if e.1 == k then (k, v) else e) = t.map id :=
        List.map_congr_left fun e' he' => by simp [hrest e' he']
      rw [put, if_pos hk, List.map_cons, if_pos hk, hsame, List.map_id]
    · simp only [get?, hk, Bool.false_eq_true, if_false] at h
      rw [put, if_neg hk, ih hkeys h, List.map_cons, if_neg hk]

end AgentDesk.Table
