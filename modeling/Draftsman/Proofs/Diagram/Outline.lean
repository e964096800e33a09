/-
Where the line of an edge meets the outlines of its nodes.

How far out of a node a point lies can be measured in the size of the node (`reach`): the
centre has reach zero and the outline has reach one, and the reach grows evenly on the way
from the centre to a point.  So the outline is met where the way has been gone for one part
in as many as the reach of its end (`boundary_eq`).  What the reach is depends on the shape;
all that is needed of it holds of all shapes: it is not less than the distance along either
axis, and not more than both together.

The distances are those of a node and another one that is apart from it.  Then the other
centre has a reach of more than two, each of the two outlines is met before half the way,
and what is left of the line between them leads from the one to the other.
-/
import Draftsman.Proofs.Diagram.Boxes

namespace Draftsman.Diagram

/-! ### How far out a point lies -/

section Gauge

variable {α : Type} [Field α] [LinearOrder α] [Scalar α]

/--
How far out of a shape a point is, its distances along the axes being measured in half the
size of the shape.
-/
def Shape.gauge (shape : Shape) (across down : α) : α :=
  match shape with
  | .box => max across down
  | .rounded => max across down
  | .ellipse => Scalar.sqrt (square across + square down)
  | .diamond => across + down

/-- The kind of an outline; that its corners are rounded makes no difference to lines. -/
def Shape.frame : Shape → Shape
  | .rounded => .box
  | shape => shape

theorem Shape.gauge_frame (shape : Shape) : (shape.frame.gauge : α → α → α) = shape.gauge := by
  cases shape <;> rfl

/-- How far out of a node a point is: zero in its centre, and one on its outline. -/
def Placement.reach (p : Placement α) (shape : Shape) (pt : Point α) : α :=
  shape.gauge (p.offset pt .horizontal) (p.offset pt .vertical)

/-- Whether a point is on the outline of a node. -/
def Placement.OnOutline (p : Placement α) (shape : Shape) (pt : Point α) : Prop :=
  p.reach shape pt = 1

/-- Whether roots are exact, as far as a shape needs them. -/
def Shape.Rooted (α : Type) [Field α] [LinearOrder α] [Scalar α] (shape : Shape) : Prop :=
  shape = .ellipse → ∀ x : α, 0 ≤ x → 0 ≤ Scalar.sqrt x ∧ Scalar.sqrt x * Scalar.sqrt x = x

theorem Shape.rooted_of_ne {shape : Shape} (straight : shape ≠ .ellipse) : shape.Rooted α :=
  fun round => absurd round straight

theorem Shape.rooted_real (shape : Shape) : shape.Rooted ℝ :=
  fun _ x nonneg => ⟨Real.sqrt_nonneg x, Real.mul_self_sqrt nonneg⟩

variable [IsStrictOrderedRing α] {shape : Shape} (rooted : shape.Rooted α) {k a b : α}

include rooted

/-- The reach grows evenly. -/
theorem Shape.Rooted.gauge_mul (hk : 0 ≤ k) (a b : α) :
    shape.gauge (k * a) (k * b) = k * shape.gauge a b := by
  cases shape with
  | box => exact (mul_max_of_nonneg a b hk).symm
  | rounded => exact (mul_max_of_nonneg a b hk).symm
  | diamond => exact (mul_add k a b).symm
  | ellipse =>
    have roots := rooted rfl
    have sum : (0 : α) ≤ square a + square b := add_nonneg (mul_self_nonneg a) (mul_self_nonneg b)
    have sum' : (0 : α) ≤ square (k * a) + square (k * b) :=
      add_nonneg (mul_self_nonneg _) (mul_self_nonneg _)
    obtain ⟨nonneg, exact⟩ := roots _ sum
    obtain ⟨nonneg', exact'⟩ := roots _ sum'
    refine (mul_self_inj nonneg' (mul_nonneg hk nonneg)).mp ?_
    show Scalar.sqrt _ * Scalar.sqrt _ = _
    rw [exact', mul_mul_mul_comm, exact, square, square, square, square]
    ring

theorem Shape.Rooted.max_le_gauge (ha : 0 ≤ a) (hb : 0 ≤ b) : max a b ≤ shape.gauge a b := by
  cases shape with
  | box => exact le_rfl
  | rounded => exact le_rfl
  | diamond => exact max_le (le_add_of_nonneg_right hb) (le_add_of_nonneg_left ha)
  | ellipse =>
    have sum : (0 : α) ≤ square a + square b := add_nonneg (mul_self_nonneg a) (mul_self_nonneg b)
    obtain ⟨nonneg, exact⟩ := rooted rfl _ sum
    refine max_le ((mul_self_le_mul_self_iff ha nonneg).mpr ?_)
      ((mul_self_le_mul_self_iff hb nonneg).mpr ?_)
    · exact (le_add_of_nonneg_right (mul_self_nonneg b)).trans_eq exact.symm
    · exact (le_add_of_nonneg_left (mul_self_nonneg a)).trans_eq exact.symm

theorem Shape.Rooted.gauge_le_add (ha : 0 ≤ a) (hb : 0 ≤ b) : shape.gauge a b ≤ a + b := by
  cases shape with
  | box => exact max_le (le_add_of_nonneg_right hb) (le_add_of_nonneg_left ha)
  | rounded => exact max_le (le_add_of_nonneg_right hb) (le_add_of_nonneg_left ha)
  | diamond => exact le_rfl
  | ellipse =>
    have sum : (0 : α) ≤ square a + square b := add_nonneg (mul_self_nonneg a) (mul_self_nonneg b)
    obtain ⟨nonneg, exact⟩ := rooted rfl _ sum
    refine (mul_self_le_mul_self_iff nonneg (add_nonneg ha hb)).mpr (exact.trans_le ?_)
    have cross := mul_nonneg ha hb
    rw [square, square]
    linarith [add_mul_self_eq a b]

end Gauge

/-! ### The way to another point -/

section Way

variable {α : Type}

@[ext]
theorem Point.ext {p q : Point α} (x : p.x = q.x) (y : p.y = q.y) : p = q := by
  cases p
  cases q
  exact congrArg₂ Point.mk x y

variable [Field α]

theorem way_of_ne {p : Placement α} {pt : Point α} (away : pt ≠ p.centre) :
    pt.x - p.x ≠ 0 ∨ pt.y - p.y ≠ 0 := by
  by_contra none
  rw [not_or, not_not, not_not, sub_eq_zero, sub_eq_zero] at none
  exact away (Point.ext none.1 none.2)

/-- The point that is a share of the way from one point to another. -/
def Point.towards (p q : Point α) (share : α) : Point α :=
  ⟨p.x + (q.x - p.x) * share, p.y + (q.y - p.y) * share⟩

theorem Point.towards_on (p q : Point α) (share : α) (a : Axis) :
    (p.towards q share).on a = p.on a + (q.on a - p.on a) * share := by
  cases a <;> rfl

/-- The same point seen from the other end. -/
theorem Point.towards_comm (p q : Point α) (share : α) :
    q.towards p share = p.towards q (1 - share) := by
  apply Point.ext <;> simp only [towards] <;> ring

/-- From one point on the way to another one leads the way itself, in part. -/
theorem Point.towards_sub (p q : Point α) (s t : α) :
    (p.towards q t).x - (p.towards q s).x = (t - s) * (q.x - p.x) ∧
      (p.towards q t).y - (p.towards q s).y = (t - s) * (q.y - p.y) := by
  constructor <;> simp only [towards] <;> ring

/-- Different shares of the way are different points. -/
theorem Point.towards_ne {p q : Point α} (away : q ≠ p) {s t : α} (other : s ≠ t) :
    p.towards q s ≠ p.towards q t := by
  intro same
  obtain ⟨x, y⟩ := Point.towards_sub p q s t
  rw [same, sub_self, zero_eq_mul, sub_eq_zero, sub_eq_zero] at x y
  exact away (Point.ext (x.resolve_left other.symm) (y.resolve_left other.symm))

theorem midpoint_towards [LinearOrder α] [Scalar α] [Exact α] [CharZero α] (p q : Point α)
    (s t : α) : midpoint (p.towards q s) (p.towards q t) = p.towards q ((s + t) / 2) := by
  apply Point.ext <;> simp only [midpoint, Point.towards, units_eq] <;> push_cast <;> ring

end Way

/-! ### Meeting the outline -/

/-- The point on the way to another one, by the share of the way to the outline. -/
theorem boundary_of_way {α : Type} [Add α] [Sub α] [Mul α] [Div α] [Scalar α] {p : Placement α}
    (shape : Shape) {pt : Point α}
    (moved : ¬ (Scalar.isZero (pt.x - p.x) && Scalar.isZero (pt.y - p.y)) = true) :
    p.boundary shape pt =
      let share := shape.share (p.width / units 2) (p.height / units 2) (pt.x - p.x) (pt.y - p.y)
      ⟨p.x + (pt.x - p.x) * share, p.y + (pt.y - p.y) * share⟩ :=
  if_neg moved

section Meet

variable {α : Type} [Field α] [LinearOrder α] [IsStrictOrderedRing α]

theorem one_div_max {a b : α} (ha : 0 < a) (hb : 0 < b) : 1 / max a b = min (1 / a) (1 / b) := by
  rcases le_total a b with le | le
  · rw [max_eq_right le, min_eq_right (one_div_le_one_div_of_le ha le)]
  · rw [max_eq_left le, min_eq_left (one_div_le_one_div_of_le hb le)]

variable {p : Placement α} {shape : Shape} {pt : Point α}

theorem offset_towards {share : α} (ahead : 0 ≤ share) (a : Axis) :
    p.offset (p.centre.towards pt share) a = share * p.offset pt a := by
  rw [Placement.offset, Placement.offset, Point.towards_on, add_sub_cancel_left, abs_mul,
    abs_of_nonneg ahead]
  ring

variable [Scalar α]

/-- On the way to a point the reach grows evenly. -/
theorem reach_towards (rooted : shape.Rooted α) {share : α} (ahead : 0 ≤ share) :
    p.reach shape (p.centre.towards pt share) = share * p.reach shape pt := by
  rw [Placement.reach, Placement.reach, offset_towards ahead, offset_towards ahead,
    rooted.gauge_mul ahead]

variable [Exact α]

omit [IsStrictOrderedRing α] in
theorem not_isZero_of_way {dx dy : α} (way : dx ≠ 0 ∨ dy ≠ 0) :
    ¬ (Scalar.isZero dx && Scalar.isZero dy) = true := by
  rwa [Bool.and_eq_true, Exact.isZero_iff, Exact.isZero_iff, not_and_or]

theorem boxShare_eq {hw hh dx dy : α} (wide : 0 < hw) (high : 0 < hh) (way : dx ≠ 0 ∨ dy ≠ 0) :
    boxShare hw hh dx dy = 1 / max (|dx| / hw) (|dy| / hh) := by
  unfold boxShare
  by_cases upright : dx = 0
  · have up := abs_pos.mpr (way.resolve_left (not_not.mpr upright))
    rw [if_pos ((Exact.isZero_iff dx).mpr upright), Exact.abs_eq, upright, abs_zero, zero_div,
      max_eq_right (div_pos up high).le, one_div_div]
  · have along := abs_pos.mpr upright
    rw [if_neg ((Exact.isZero_iff dx).not.mpr upright)]
    by_cases level : dy = 0
    · rw [if_pos ((Exact.isZero_iff dy).mpr level), Exact.abs_eq, level, abs_zero, zero_div,
        max_eq_left (div_pos along wide).le, one_div_div]
    · have up := abs_pos.mpr level
      rw [if_neg ((Exact.isZero_iff dy).not.mpr level), Scalar.min_eq, Exact.abs_eq, Exact.abs_eq,
        one_div_max (div_pos along wide) (div_pos up high), one_div_div, one_div_div]

/-- The share of the way at which a shape is left is one part in its gauge. -/
theorem Shape.share_eq (shape : Shape) {hw hh dx dy : α} (wide : 0 < hw) (high : 0 < hh)
    (way : dx ≠ 0 ∨ dy ≠ 0) :
    shape.share hw hh dx dy = 1 / shape.gauge (|dx| / hw) (|dy| / hh) := by
  cases shape with
  | box => exact boxShare_eq wide high way
  | rounded => exact boxShare_eq wide high way
  | ellipse =>
    have squares : ∀ x y : α, square (|x| / y) = square (x / y) := by
      intro x y
      rw [square, square, div_mul_div_comm, div_mul_div_comm, abs_mul_abs_self]
    rw [share, gauge, squares, squares, units_eq, Nat.cast_one]
  | diamond => rw [share, gauge, units_eq, Exact.abs_eq, Exact.abs_eq, Nat.cast_one]

/-- The line to a point leaves a node after one part of it in as many as the point's reach. -/
theorem boundary_eq (shape : Shape) (wide : 0 < p.width) (high : 0 < p.height)
    (away : pt ≠ p.centre) :
    p.boundary shape pt = p.centre.towards pt (1 / p.reach shape pt) := by
  have way := way_of_ne away
  have two : (units 2 : α) = 2 := by rw [units_eq, Nat.cast_ofNat]
  rw [boundary_of_way shape (not_isZero_of_way way), two,
    shape.share_eq (half_pos wide) (half_pos high) way]
  rfl

end Meet

/-! ### Nodes that are apart -/

section Separate

variable {α : Type} [Field α] [LinearOrder α]

/-- Whether two placements have one size and a gap between their boxes. -/
structure Placement.Separate (p q : Placement α) : Prop where
  wide : 0 < p.width
  high : 0 < p.height
  width : q.width = p.width
  height : q.height = p.height
  apart : ∃ a, ∃ gap > 0, p.Apart q a gap

theorem Placement.Separate.symm {p q : Placement α} (separate : p.Separate q) : q.Separate p where
  wide := separate.width ▸ separate.wide
  high := separate.height ▸ separate.high
  width := separate.width.symm
  height := separate.height.symm
  apart := by
    obtain ⟨a, gap, wide, apart⟩ := separate.apart
    exact ⟨a, gap, wide, apart.symm⟩

variable {p q : Placement α} {shape : Shape} {pt : Point α}

theorem Placement.Separate.size_pos (separate : p.Separate q) (a : Axis) : 0 < p.size a := by
  cases a with
  | horizontal => exact separate.wide
  | vertical => exact separate.high

theorem Placement.Separate.size_eq (separate : p.Separate q) (a : Axis) : q.size a = p.size a := by
  cases a with
  | horizontal => exact separate.width
  | vertical => exact separate.height

/-- The offsets of two placements from each other are the same. -/
theorem Placement.Separate.offset_symm (separate : p.Separate q) (a : Axis) :
    q.offset p.centre a = p.offset q.centre a := by
  rw [offset, offset, separate.size_eq, abs_sub_comm]

variable [IsStrictOrderedRing α]

theorem Placement.Separate.offset_nonneg (separate : p.Separate q) (pt : Point α) (a : Axis) :
    0 ≤ p.offset pt a := div_nonneg (abs_nonneg _) (half_pos (separate.size_pos a)).le

/-- On one axis two centres are further apart than the size of a box. -/
theorem Placement.Separate.two_lt_offset (separate : p.Separate q) :
    ∃ a, 2 < p.offset q.centre a := by
  obtain ⟨a, gap, wide, apart⟩ := separate.apart
  refine ⟨a, ?_⟩
  have size := separate.size_pos a
  rw [offset, lt_div_iff₀ (half_pos size)]
  rw [Apart, Placement.high, Placement.high, Placement.low, Placement.low,
    separate.size_eq] at apart
  rcases apart with before | behind
  · exact lt_of_lt_of_le (by linarith) (le_abs_self _)
  · exact lt_of_lt_of_le (by linarith) (neg_le_abs _)

theorem Placement.Separate.centre_ne (separate : p.Separate q) : q.centre ≠ p.centre := by
  intro same
  obtain ⟨a, far⟩ := separate.two_lt_offset
  rw [offset, same, sub_self, abs_zero, zero_div] at far
  exact far.not_ge zero_le_two

variable [Scalar α]

/-- The reach of a point is not less than its offset on either axis. -/
theorem Placement.Separate.offset_le_reach (separate : p.Separate q) (rooted : shape.Rooted α)
    (pt : Point α) (a : Axis) : p.offset pt a ≤ p.reach shape pt := by
  have both := rooted.max_le_gauge (separate.offset_nonneg pt .horizontal)
    (separate.offset_nonneg pt .vertical)
  cases a with
  | horizontal => exact (le_max_left _ _).trans both
  | vertical => exact (le_max_right _ _).trans both

/-- The reach of a point is not more than both its offsets. -/
theorem Placement.Separate.reach_le_add (separate : p.Separate q) (rooted : shape.Rooted α)
    (pt : Point α) : p.reach shape pt ≤ p.offset pt .horizontal + p.offset pt .vertical :=
  rooted.gauge_le_add (separate.offset_nonneg pt .horizontal) (separate.offset_nonneg pt .vertical)

/-- The share of the way to another node at which the outline is met. -/
def Placement.share (p : Placement α) (shape : Shape) (q : Placement α) : α :=
  1 / p.reach shape q.centre

theorem Placement.Separate.two_lt_reach (separate : p.Separate q) (rooted : shape.Rooted α) :
    2 < p.reach shape q.centre := by
  obtain ⟨a, far⟩ := separate.two_lt_offset
  exact far.trans_le (separate.offset_le_reach rooted q.centre a)

theorem Placement.Separate.share_pos (separate : p.Separate q) (rooted : shape.Rooted α) :
    0 < p.share shape q :=
  one_div_pos.mpr (two_pos.trans (separate.two_lt_reach rooted))

/-- The outline is met before half the way. -/
theorem Placement.Separate.share_lt_half (separate : p.Separate q) (rooted : shape.Rooted α) :
    p.share shape q < 1 / 2 :=
  one_div_lt_one_div_of_lt two_pos (separate.two_lt_reach rooted)

/-- The reach of a point on the way, in shares of the way to the outline. -/
theorem reach_towards_centre (rooted : shape.Rooted α) {share : α} (ahead : 0 ≤ share) :
    p.reach shape (p.centre.towards q.centre share) = share / p.share shape q := by
  rw [reach_towards rooted ahead, Placement.share, div_div_eq_mul_div, div_one]

variable [Exact α]

theorem Placement.Separate.boundary_eq (separate : p.Separate q) (shape : Shape) :
    p.boundary shape q.centre = p.centre.towards q.centre (p.share shape q) :=
  Diagram.boundary_eq shape separate.wide separate.high separate.centre_ne

/-- The line to another node meets the outline where it ends. -/
theorem Placement.Separate.onOutline (separate : p.Separate q) (rooted : shape.Rooted α) :
    p.OnOutline shape (p.boundary shape q.centre) := by
  have pos := separate.share_pos rooted
  rw [OnOutline, separate.boundary_eq, reach_towards_centre rooted pos.le, div_self pos.ne']

/-- The line between two outlines: where it begins and ends on the way between the centres. -/
theorem Placement.Separate.line (separate : p.Separate q) {shape' : Shape}
    (rooted : shape.Rooted α) (rooted' : shape'.Rooted α) :
    ∃ s t, p.boundary shape q.centre = p.centre.towards q.centre s ∧
      q.boundary shape' p.centre = p.centre.towards q.centre t ∧ 0 < s ∧ s < t ∧ t < 1 := by
  have before := separate.share_lt_half rooted
  have behind := separate.symm.share_lt_half rooted'
  have ends := separate.symm.share_pos rooted'
  refine ⟨_, 1 - q.share shape' p, separate.boundary_eq shape, ?_, separate.share_pos rooted,
    by linarith, by linarith⟩
  rw [separate.symm.boundary_eq, Point.towards_comm]

end Separate

/-- The nodes of a layout are apart. -/
theorem separate_of_ne {α : Type} [Field α] [LinearOrder α] [IsStrictOrderedRing α] [Scalar α]
    [Exact α] {d : Diagram} {i j : Nat} {p q : Placement α}
    (begins : (d.layout : Layout α).nodes[i]? = some p)
    (ends : (d.layout : Layout α).nodes[j]? = some q) (other : i ≠ j) : p.Separate q := by
  obtain ⟨layer, here, rfl⟩ := d.layout_nodes_eq_some_iff.mp begins
  obtain ⟨layer', there, rfl⟩ := d.layout_nodes_eq_some_iff.mp ends
  refine ⟨d.nodeWidth_pos, nodeHeight_pos, rfl, rfl, ?_⟩
  by_cases same : layer = layer'
  · subst same
    exact ⟨d.direction.cross, 40, by norm_num, d.apart_cross here there other⟩
  · exact ⟨d.direction.main, 72, by norm_num, d.apart_main same⟩

end Draftsman.Diagram
