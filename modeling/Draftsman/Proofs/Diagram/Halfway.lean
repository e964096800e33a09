/-
The middle of the line between two nodes.

A line runs straight from outline to outline, and outlines are met after shares of the way
that do not differ much (`Separate.share_sub_le`).  So the middle of the line is close to the
point halfway between the centres: at that point if both outlines are of one kind, and
otherwise no further from it, on either axis, than an eighth of the size of a node
(`Separate.near_halfway`).
-/
import Draftsman.Proofs.Diagram.Outline

namespace Draftsman.Diagram

/-! ### In the middle -/

/-- Where the label of the line between two nodes is. -/
def labelPoint {α : Type} [Add α] [Sub α] [Mul α] [Div α] [Scalar α] (shape : Shape)
    (p : Placement α) (shape' : Shape) (q : Placement α) : Point α :=
  midpoint (p.boundary shape q.centre) (q.boundary shape' p.centre)

/-- The label is the same seen from the other end. -/
theorem labelPoint_comm {α : Type} [Field α] [Scalar α] (shape : Shape) (p : Placement α)
    (shape' : Shape) (q : Placement α) :
    labelPoint shape' q shape p = labelPoint shape p shape' q := by
  rw [labelPoint, labelPoint, midpoint, midpoint, add_comm, add_comm (Point.y _)]

/-! ### Close to halfway -/

section Halfway

variable {α : Type} [Field α] [LinearOrder α]

/-- Outlines of one kind are met after the same share of the way from either side. -/
theorem Placement.Separate.share_eq [Scalar α] {p q : Placement α}
    {shape shape' : Shape} (separate : p.Separate q)
    (alike : shape.frame = shape'.frame) : p.share shape q = q.share shape' p := by
  have measured : ∀ (shape : Shape) (p : Placement α) (pt : Point α),
      p.reach shape pt = shape.frame.gauge (p.offset pt .horizontal) (p.offset pt .vertical) := by
    intro shape p pt
    rw [shape.gauge_frame]
    rfl
  rw [share, share, measured, measured, alike, separate.offset_symm, separate.offset_symm]

variable [IsStrictOrderedRing α]

/-- Two numbers between the greater one and the sum of two are not far from each other. -/
theorem one_div_sub_le {a b g g' : α} (pos : 0 < a) (nonneg : 0 ≤ b) (le : max a b ≤ g)
    (le' : g' ≤ a + b) (gt' : 0 < g') : 1 / g - 1 / g' ≤ 1 / (2 * a) := by
  have greater : 0 < max a b := lt_max_of_lt_left pos
  have first : 1 / g ≤ 1 / max a b := one_div_le_one_div_of_le greater le
  have second : 1 / (a + b) ≤ 1 / g' := one_div_le_one_div_of_le gt' le'
  have middle : 1 / max a b - 1 / (a + b) ≤ 1 / (2 * a) := by
    rcases le_total a b with short | long
    · rw [max_eq_right short]
      have pos_b := pos.trans_le short
      rw [div_sub_div _ _ pos_b.ne' (add_pos pos pos_b).ne', div_le_div_iff₀ (by positivity)
        (by positivity)]
      nlinarith
    · rw [max_eq_left long]
      rw [div_sub_div _ _ pos.ne' (add_pos_of_pos_of_nonneg pos nonneg).ne',
        div_le_div_iff₀ (by positivity) (by positivity)]
      nlinarith
  linarith

/-- A point on the way is between the ends, on either axis. -/
theorem Point.towards_between (p q : Point α) {share : α} (ahead : 0 ≤ share) (short : share ≤ 1)
    (a : Axis) : min (p.on a) (q.on a) ≤ (p.towards q share).on a ∧
      (p.towards q share).on a ≤ max (p.on a) (q.on a) := by
  rw [towards_on]
  rcases le_total (p.on a) (q.on a) with le | le
  · have part := mul_le_mul_of_nonneg_left short (sub_nonneg.mpr le)
    have some := mul_nonneg (sub_nonneg.mpr le) ahead
    rw [min_eq_left le, max_eq_right le]
    constructor <;> linarith
  · have part := mul_le_mul_of_nonneg_left short (sub_nonneg.mpr le)
    have some := mul_nonneg (sub_nonneg.mpr le) ahead
    rw [min_eq_right le, max_eq_left le]
    constructor <;> linarith

variable {p q : Placement α} {shape shape' : Shape}

/-- The distance of two centres on an axis. -/
theorem Placement.Separate.distance_eq (separate : p.Separate q) (a : Axis) :
    |q.centre.on a - p.centre.on a| = p.offset q.centre a * (p.size a / 2) := by
  rw [offset, div_mul_cancel₀ _ (half_pos (separate.size_pos a)).ne']

variable [Scalar α]

/-- The shares of the way at which two outlines are met do not differ much. -/
theorem Placement.Separate.share_sub_le (separate : p.Separate q) (rooted : shape.Rooted α)
    (rooted' : shape'.Rooted α) {a : Axis} (far : 0 < p.offset q.centre a) :
    p.share shape q - q.share shape' p ≤ 1 / (2 * p.offset q.centre a) := by
  have some := separate.offset_nonneg q.centre a.other
  have le := max_le (separate.offset_le_reach rooted q.centre a)
    (separate.offset_le_reach rooted q.centre a.other)
  have sum : q.reach shape' p.centre ≤ p.offset q.centre a + p.offset q.centre a.other := by
    have both := separate.symm.reach_le_add rooted' p.centre
    rw [separate.offset_symm, separate.offset_symm] at both
    cases a with
    | horizontal => exact both
    | vertical => exact both.trans_eq (add_comm _ _)
  exact one_div_sub_le far some le sum (two_pos.trans (separate.symm.two_lt_reach rooted'))

variable [Exact α]

theorem Placement.Separate.labelPoint_eq (separate : p.Separate q) (shape shape' : Shape) :
    labelPoint shape p shape' q = p.centre.towards q.centre
      (1 / 2 + (p.share shape q - q.share shape' p) / 2) := by
  have middle : (p.share shape q + (1 - q.share shape' p)) / 2
      = 1 / 2 + (p.share shape q - q.share shape' p) / 2 := by ring
  rw [labelPoint, separate.boundary_eq, separate.symm.boundary_eq,
    Point.towards_comm p.centre q.centre, midpoint_towards, middle]

/-- The point halfway between two centres, on an axis. -/
theorem Placement.Separate.labelPoint_on (separate : p.Separate q) (shape shape' : Shape)
    (a : Axis) : (labelPoint shape p shape' q).on a - (p.centre.on a + q.centre.on a) / 2
      = (q.centre.on a - p.centre.on a) * (p.share shape q - q.share shape' p) / 2 := by
  rw [separate.labelPoint_eq, Point.towards_on]
  ring

/-- The label is close to the point halfway between the centres. -/
theorem Placement.Separate.near_halfway (separate : p.Separate q) (rooted : shape.Rooted α)
    (rooted' : shape'.Rooted α) (a : Axis) :
    |(labelPoint shape p shape' q).on a - (p.centre.on a + q.centre.on a) / 2| ≤ p.size a / 8 := by
  have size := separate.size_pos a
  rw [separate.labelPoint_on, abs_div, abs_mul, abs_two, separate.distance_eq]
  rcases (separate.offset_nonneg q.centre a).eq_or_lt with level | far
  · rw [← level, zero_mul, zero_mul, zero_div]
    positivity
  · have one := separate.share_sub_le rooted rooted' far
    have two := separate.symm.share_sub_le rooted' rooted (separate.offset_symm a ▸ far)
    rw [separate.offset_symm] at two
    have differ : |p.share shape q - q.share shape' p| ≤ 1 / (2 * p.offset q.centre a) :=
      abs_sub_le_iff.mpr ⟨one, two⟩
    calc p.offset q.centre a * (p.size a / 2) * |p.share shape q - q.share shape' p| / 2
        ≤ p.offset q.centre a * (p.size a / 2) * (1 / (2 * p.offset q.centre a)) / 2 := by gcongr
      _ = p.size a / 8 := by field_simp; ring

/-- Between outlines of one kind the label is halfway between the centres. -/
theorem Placement.Separate.eq_halfway (separate : p.Separate q)
    (alike : shape.frame = shape'.frame) :
    labelPoint shape p shape' q = midpoint p.centre q.centre := by
  rw [separate.labelPoint_eq, separate.share_eq alike]
  apply Point.ext <;> simp only [Point.towards, midpoint, units_eq] <;> push_cast <;> ring

/-- The label is between the outlines. -/
theorem Placement.Separate.one_lt_reach_labelPoint (separate : p.Separate q)
    (rooted : shape.Rooted α) (rooted' : shape'.Rooted α) :
    1 < p.reach shape (labelPoint shape p shape' q) := by
  have pos := separate.share_pos rooted
  have short := separate.share_lt_half rooted
  have short' := separate.symm.share_lt_half rooted'
  rw [separate.labelPoint_eq, reach_towards_centre rooted (by linarith), one_lt_div pos]
  linarith

/-- The label is between the centres. -/
theorem Placement.Separate.labelPoint_between (separate : p.Separate q)
    (rooted : shape.Rooted α) (rooted' : shape'.Rooted α) (a : Axis) :
    min (p.centre.on a) (q.centre.on a) ≤ (labelPoint shape p shape' q).on a ∧
      (labelPoint shape p shape' q).on a ≤ max (p.centre.on a) (q.centre.on a) := by
  have pos := separate.share_pos rooted
  have pos' := separate.symm.share_pos rooted'
  have short := separate.share_lt_half rooted
  have short' := separate.symm.share_lt_half rooted'
  rw [separate.labelPoint_eq]
  exact Point.towards_between _ _ (by linarith) (by linarith) a

end Halfway

end Draftsman.Diagram
