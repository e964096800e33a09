/-
The numbers that positions and sizes are computed with.

Drawing uses floating-point numbers.  Nothing in the geometry depends on that, so
it is written for any type with the four operations and the few functions below;
with exact numbers it says where things are, free of rounding.
-/
namespace Draftsman

/-- What geometry needs beside the four operations. -/
class Scalar (α : Type) where
  /-- A natural number. -/
  ofNat : Nat → α
  /-- The distance from zero. -/
  abs : α → α
  /-- The square root. -/
  sqrt : α → α
  /-- Whether one number is less than another. -/
  less : α → α → Bool
  /-- Whether a number is zero. -/
  isZero : α → Bool

namespace Scalar

/-- The greater of two numbers. -/
def max {α : Type} [Scalar α] (x y : α) : α := if less x y then y else x

/-- The lesser of two numbers. -/
def min {α : Type} [Scalar α] (x y : α) : α := if less y x then y else x

end Scalar

instance : Scalar Float where
  ofNat := Float.ofNat
  abs := Float.abs
  sqrt := Float.sqrt
  less x y := x < y
  isZero x := x == 0

end Draftsman
