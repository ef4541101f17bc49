/-!
# Tables

A table maps keys to values and remembers the order in which its keys were first put. Each key
occurs at most once as long as a table is changed through the functions of this module.

## Main definitions

* `Table.get?`, `Table.put`, `Table.erase`, `Table.update`, `Table.keys`.
-/

namespace AgentDesk

/-- Values by key, in the order in which the keys were first put. -/
abbrev Table (κ : Type u) (ν : Type v) := List (κ × ν)

namespace Table

variable {κ : Type u} {ν : Type v} [BEq κ]

/-- The value under a key. -/
def get? (k : κ) : Table κ ν → Option ν
  | [] => none
  | (k', v) :: t => if k' == k then some v else get? k t

/-- Whether a key has a value. -/
def has (k : κ) (t : Table κ ν) : Bool := (get? k t).isSome

/-- Puts a value under a key, in the place of an earlier one. -/
def put (k : κ) (v : ν) : Table κ ν → Table κ ν
  | [] => [(k, v)]
  | (k', v') :: t => if k' == k then (k, v) :: t else (k', v') :: put k v t

/-- Removes a key. -/
def erase (k : κ) (t : Table κ ν) : Table κ ν := t.filter fun e => !(e.1 == k)

/-- Changes the value under a key, if there is one. -/
def update (k : κ) (f : ν → ν) (t : Table κ ν) : Table κ ν :=
  t.map fun e => if e.1 == k then (e.1, f e.2) else e

/-- The keys in order. -/
def keys (t : Table κ ν) : List κ := t.map (·.1)

/-! ## What a change does to the values -/

@[simp] theorem get?_put_self [LawfulBEq κ] (k : κ) (v : ν) (t : Table κ ν) :
    get? k (put k v t) = some v := by
  induction t with
  | nil => simp [put, get?]
  | cons e t ih =>
    by_cases h : e.1 == k
    · simp [put, get?, h]
    · simp [put, get?, h, ih]

theorem get?_put_of_ne [LawfulBEq κ] {k k' : κ} (h : k' ≠ k) (v : ν) (t : Table κ ν) :
    get? k' (put k v t) = get? k' t := by
  have hb : (k == k') = false := by simp [Ne.symm h]
  induction t with
  | nil => simp [put, get?, hb]
  | cons e t ih =>
    by_cases he : e.1 == k
    · have : (e.1 == k') = false := by rw [eq_of_beq he]; exact hb
      simp [put, get?, he, this, hb]
    · simp [put, get?, he, ih]

@[simp] theorem get?_erase_self (k : κ) (t : Table κ ν) : get? k (erase k t) = none := by
  induction t with
  | nil => rfl
  | cons e t ih =>
    by_cases he : e.1 == k
    · simpa [erase, he] using ih
    · simpa [erase, he, get?] using ih

theorem get?_erase_of_ne [LawfulBEq κ] {k k' : κ} (h : k' ≠ k) (t : Table κ ν) :
    get? k' (erase k t) = get? k' t := by
  induction t with
  | nil => rfl
  | cons e t ih =>
    by_cases he : e.1 == k
    · have : (e.1 == k') = false := by
        rw [eq_of_beq he]
        simp [Ne.symm h]
      simpa [erase, he, get?, this] using ih
    · by_cases he' : e.1 == k'
      · simp [erase, he, get?, he']
      · simpa [erase, he, get?, he'] using ih

/-! ## The keys -/

theorem mem_of_get? [LawfulBEq κ] {k : κ} {v : ν} {t : Table κ ν} (h : get? k t = some v) :
    (k, v) ∈ t := by
  induction t with
  | nil => cases h
  | cons e t ih =>
    by_cases he : e.1 == k
    · simp only [get?, he, if_true, Option.some.injEq] at h
      rw [← h, ← eq_of_beq he]
      exact List.mem_cons_self
    · simp only [get?, he, Bool.false_eq_true, if_false] at h
      exact List.mem_cons_of_mem _ (ih h)

theorem get?_eq_none_iff [LawfulBEq κ] {k : κ} {t : Table κ ν} : get? k t = none ↔ k ∉ t.keys := by
  induction t with
  | nil => simp [get?, keys]
  | cons e t ih =>
    by_cases he : e.1 == k
    · simp [get?, keys, eq_of_beq he]
    · have hne : k ≠ e.1 := fun h => he (by simp [h])
      simpa [get?, keys, he, hne] using ih

/-- A key that is put joins the others, unless it is one of them. -/
theorem keys_put [LawfulBEq κ] (k : κ) (v : ν) (t : Table κ ν) :
    (put k v t).keys = if (get? k t).isSome then t.keys else t.keys ++ [k] := by
  induction t with
  | nil => rfl
  | cons e t ih =>
    by_cases he : e.1 == k
    · simp [put, get?, keys, eq_of_beq he]
    · simp only [keys] at ih
      simp only [put, get?, keys, he, Bool.false_eq_true, if_false, List.map_cons, ih]
      split <;> rfl

theorem nodup_keys_put [LawfulBEq κ] (k : κ) (v : ν) {t : Table κ ν} (h : t.keys.Nodup) :
    (put k v t).keys.Nodup := by
  rw [keys_put]
  split
  · exact h
  · rename_i hnone
    rw [Option.not_isSome_iff_eq_none, get?_eq_none_iff] at hnone
    refine List.nodup_append.mpr ⟨h, by simp, fun a ha b hb => ?_⟩
    rintro rfl
    exact hnone (List.mem_singleton.mp hb ▸ ha)

theorem nodup_keys_erase (k : κ) {t : Table κ ν} (h : t.keys.Nodup) : (erase k t).keys.Nodup :=
  h.sublist (List.filter_sublist.map _)

end Table

end AgentDesk
