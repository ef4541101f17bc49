import AgentDesk.Usage
import Mathlib.Data.Rat.Cast.Order
/-!
# Sums of floating-point numbers

What is added up in floating-point numbers does not depend on the sign of a zero. A sum in which no
addition rounds has the value of the exact sum.

## Main definitions

* `AlikeFloat` — two numbers that are equal but for the sign of a zero.
* `exactValue` — the value of a finite number.
* `addAll` — a sum, one number after the other.
* `AddsExactly` — no addition of a sum rounds.
-/

namespace AgentDesk

open Float.Model (UnpackedFloat)
open Float.Model.UnpackedFloat (Sign)

/-- Two numbers are equal but for the sign of a zero. -/
def AlikeFloat (x y : Float) : Prop := x = y ∨ (x == 0) ∧ (y == 0)

instance decidableAlikeFloat (x y : Float) : Decidable (AlikeFloat x y) :=
  inferInstanceAs (Decidable (x = y ∨ (x == 0) ∧ (y == 0)))

/-- The value of a finite number; zero stands for what has none. -/
def exactValue (x : Float) : ℚ :=
  match x.toModel.unpack with
  | .finite sign mantissa exponent _ => sign.apply mantissa * (2 : ℚ) ^ exponent
  | _ => 0

/-- A sum, one number after the other. -/
def addAll (start : Float) (xs : List Float) : Float := xs.foldl (· + ·) start

/-- No addition of a sum rounds. -/
def AddsExactly : Float → List Float → Prop
  | _, [] => True
  | start, x :: xs =>
    exactValue (start + x) = exactValue start + exactValue x ∧ AddsExactly (start + x) xs

instance decidableAddsExactly : (start : Float) → (xs : List Float) →
    Decidable (AddsExactly start xs)
  | _, [] => isTrue trivial
  | start, x :: xs =>
    have := decidableAddsExactly (start + x) xs
    inferInstanceAs (Decidable (exactValue (start + x) = exactValue start + exactValue x ∧
      AddsExactly (start + x) xs))

/-! ## Zeros -/

/-- A number is zero if it is unpacked to a zero of either sign. -/
theorem beq_zero_iff {x : Float} : x == 0 ↔ ∃ sign, x.toModel.unpack = .zero sign := by
  have hzero : (0 : Float).toModel.unpack = .zero .positive := by rfl
  have hbeq : (x == 0) = x.toModel.unpack.beq (0 : Float).toModel.unpack := rfl
  rw [hbeq, hzero]
  cases x.toModel.unpack with
  | zero sign => exact ⟨fun _ => ⟨sign, rfl⟩, fun _ => by cases sign <;> rfl⟩
  | finite sign mantissa exponent h =>
    have hbeq : (UnpackedFloat.finite sign mantissa exponent h).beq (.zero .positive) = false := by
      cases sign <;> rfl
    exact iff_of_false (hbeq ▸ Bool.false_ne_true) (fun ⟨_, hzero⟩ => by cases hzero)
  | infinity sign =>
    have hbeq : (UnpackedFloat.infinity sign).beq (.zero .positive) = false := by
      cases sign <;> rfl
    exact iff_of_false (hbeq ▸ Bool.false_ne_true) (fun ⟨_, hzero⟩ => by cases hzero)
  | notANumber =>
    exact iff_of_false (fun hbeq => Bool.false_ne_true hbeq) (fun ⟨_, hzero⟩ => by cases hzero)

theorem toModel_add (x y : Float) : (x + y).toModel =
    .pack (.add .binary64 x.toModel.unpack y.toModel.unpack) := rfl

namespace AlikeFloat

variable {x y z : Float}

theorem refl (x : Float) : AlikeFloat x x := .inl rfl

theorem symm (h : AlikeFloat x y) : AlikeFloat y x := h.imp Eq.symm And.symm

theorem trans (h : AlikeFloat x y) (h' : AlikeFloat y z) : AlikeFloat x z := by
  rcases h with rfl | ⟨hx, hy⟩
  · exact h'
  · rcases h' with rfl | ⟨-, hz⟩
    · exact .inr ⟨hx, hy⟩
    · exact .inr ⟨hx, hz⟩

/-- Zeros of different signs give the same sum with anything but a zero. -/
theorem add (h : AlikeFloat x y) (c : Float) : AlikeFloat (x + c) (y + c) := by
  rcases h with rfl | ⟨hx, hy⟩
  · exact .refl _
  · obtain ⟨sx, hx⟩ := beq_zero_iff.mp hx
    obtain ⟨sy, hy⟩ := beq_zero_iff.mp hy
    have hsum : ∀ {a : Float} {s : Sign}, a.toModel.unpack = .zero s →
        (a + c).toModel = .pack (.add .binary64 (.zero s) c.toModel.unpack) := by
      intro a s ha
      rw [toModel_add, ha]
    cases hc : c.toModel.unpack with
    | zero sc =>
      have hzero : ∀ {a : Float} {s : Sign}, a.toModel.unpack = .zero s → a + c == 0 := by
        intro a s ha
        refine beq_zero_iff.mpr ⟨if s == sc then s else .positive, ?_⟩
        rw [hsum ha, hc]
        cases s <;> cases sc <;> rfl
      exact .inr ⟨hzero hx, hzero hy⟩
    | finite _ _ _ _ | infinity _ | notANumber =>
      refine .inl (congrArg Float.ofModel (?_ : (x + c).toModel = (y + c).toModel))
      rw [hsum hx, hsum hy, hc]
      rfl

theorem addAll (h : AlikeFloat x y) (xs : List Float) :
    AlikeFloat (addAll x xs) (addAll y xs) := by
  induction xs generalizing x y with
  | nil => exact h
  | cons c xs ih => exact ih (h.add c)

theorem exactValue_eq (h : AlikeFloat x y) : exactValue x = exactValue y := by
  rcases h with rfl | ⟨hx, hy⟩
  · rfl
  · obtain ⟨sx, hx⟩ := beq_zero_iff.mp hx
    obtain ⟨sy, hy⟩ := beq_zero_iff.mp hy
    rw [exactValue, hx, exactValue, hy]

end AlikeFloat

/-! ## Sums -/

theorem addAll_append (start : Float) (xs ys : List Float) :
    addAll start (xs ++ ys) = addAll (addAll start xs) ys := List.foldl_append

/-- **A sum in which no addition rounds has the value of the exact sum.** -/
theorem exactValue_addAll {start : Float} {xs : List Float} (h : AddsExactly start xs) :
    exactValue (addAll start xs) = exactValue start + (xs.map exactValue).sum := by
  induction xs generalizing start with
  | nil => exact (add_zero _).symm
  | cons x xs ih =>
    calc exactValue (addAll start (x :: xs))
        = exactValue (start + x) + (xs.map exactValue).sum := ih h.2
      _ = exactValue start + exactValue x + (xs.map exactValue).sum := by rw [h.1]
      _ = exactValue start + ((x :: xs).map exactValue).sum := by
        rw [List.map_cons, List.sum_cons, add_assoc]

end AgentDesk
