/-
Geometry with exact numbers.

What is drawn where is computed with the four operations and a few functions beside them
(`Scalar`).  In an ordered field these can mean exactly what they say (`Exact`), and then
the geometry of a diagram can be reasoned about.  The rationals are such a field, and
whatever takes no roots can be computed with them; the reals have the roots as well.
-/
import Mathlib
import Draftsman.Diagram.Layout

namespace Draftsman

/-- Ordered fields in which lengths are computed without rounding. -/
class Exact (α : Type) [Field α] [LinearOrder α] [Scalar α] : Prop where
  ofNat_eq : ∀ n : Nat, (Scalar.ofNat n : α) = n
  abs_eq : ∀ x : α, Scalar.abs x = |x|
  less_iff : ∀ x y : α, Scalar.less x y = true ↔ x < y
  isZero_iff : ∀ x : α, Scalar.isZero x = true ↔ x = 0

/-- The rationals; of the roots they have those of squares only. -/
instance : Scalar ℚ where
  ofNat n := n
  abs x := |x|
  sqrt := Rat.sqrt
  less x y := x < y
  isZero x := x = 0

instance : Exact ℚ where
  ofNat_eq _ := rfl
  abs_eq _ := rfl
  less_iff _ _ := decide_eq_true_iff
  isZero_iff _ := decide_eq_true_iff

/-- The reals. -/
noncomputable instance : Scalar ℝ where
  ofNat n := n
  abs x := |x|
  sqrt := Real.sqrt
  less x y := x < y
  isZero x := x = 0

instance : Exact ℝ where
  ofNat_eq _ := rfl
  abs_eq _ := rfl
  less_iff _ _ := decide_eq_true_iff
  isZero_iff _ := decide_eq_true_iff

variable {α : Type} [Field α] [LinearOrder α] [Scalar α] [Exact α]

@[simp]
theorem Scalar.max_eq (x y : α) : Scalar.max x y = Max.max x y := by
  rw [Scalar.max, max_def]
  by_cases less : x < y
  · rw [if_pos ((Exact.less_iff x y).mpr less), if_pos less.le]
  · rw [if_neg ((Exact.less_iff x y).not.mpr less)]
    split
    · rename_i le
      exact le.antisymm (not_lt.mp less)
    · rfl

@[simp]
theorem Scalar.min_eq (x y : α) : Scalar.min x y = Min.min x y := by
  rw [Scalar.min, min_def]
  by_cases less : y < x
  · rw [if_pos ((Exact.less_iff y x).mpr less), if_neg less.not_ge]
  · rw [if_neg ((Exact.less_iff y x).not.mpr less), if_pos (not_lt.mp less)]

namespace Diagram

@[simp]
theorem units_eq (n : Nat) : (units n : α) = n := Exact.ofNat_eq n

end Diagram

end Draftsman
