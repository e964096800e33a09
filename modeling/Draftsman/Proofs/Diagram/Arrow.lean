/-
The arrows between nodes.

An edge between two nodes is drawn as a line between their outlines.  Since the nodes are
apart, the line begins on the one outline and ends on the other, and leads the same way as
from centre to centre.

Computing it never depends on a division by zero.  To say so, the divisions are made by
any operation that is right where there is a quotient (`IsDivision`), whatever it makes of
a division by zero: the line is the same for all of them.
-/
import Draftsman.Proofs.Diagram.Outline

namespace Draftsman.Diagram

/-! ### Divisions that need not be known at zero -/

section Division

variable {α : Type} [Field α]

/-- Whether an operation divides, wherever there is a quotient. -/
def IsDivision (quotient : α → α → α) : Prop := ∀ x y : α, y ≠ 0 → quotient x y = x / y

variable [LinearOrder α] [IsStrictOrderedRing α] [Scalar α] [Exact α]
variable {quotient : α → α → α} (divides : IsDivision quotient) (d : Diagram)

theorem units_ne_zero {n : Nat} (some : n ≠ 0) : (units n : α) ≠ 0 := by
  rw [units_eq]
  exact Nat.cast_ne_zero.mpr some

include divides

theorem IsDivision.by_units (x : α) {n : Nat} (some : n ≠ 0) :
    quotient x (units n) = x / units n := divides x (units n) (units_ne_zero some)

theorem IsDivision.titleWidth : @titleWidth α _ ⟨quotient⟩ _ d = d.titleWidth := by
  unfold Diagram.titleWidth
  cases d.title with
  | none => rfl
  | some title =>
    exact congrArg (units title.length * charWidth * ·) (divides.by_units (units 5) four_ne_zero)

theorem IsDivision.canvasWidth (layers : List Nat) :
    @canvasWidth α _ _ _ ⟨quotient⟩ _ d layers = d.canvasWidth layers := by
  unfold Diagram.canvasWidth
  rw [divides.titleWidth]

theorem IsDivision.availableCross (layers : List Nat) :
    @availableCross α _ _ _ ⟨quotient⟩ _ d layers = d.availableCross layers := by
  unfold Diagram.availableCross
  rw [divides.canvasWidth]

theorem IsDivision.placement (available : α) (count layer rank : Nat) :
    @placement α _ _ _ ⟨quotient⟩ _ d available count layer rank
      = d.placement available count layer rank := by
  have main : @mainMiddle α _ _ ⟨quotient⟩ _ d layer = d.mainMiddle layer :=
    congrArg (units layer * d.mainStep + ·) (divides.by_units d.mainSize two_ne_zero)
  have cross : @crossMiddle α _ _ _ ⟨quotient⟩ _ d available count rank
      = d.crossMiddle available count rank :=
    congrArg₂ (fun before half => before + units rank * (d.crossSize + siblingGap) + half)
      (divides.by_units (available - d.crossSpan count) two_ne_zero)
      (divides.by_units d.crossSize two_ne_zero)
  unfold Diagram.placement
  rw [main, cross]

/-- No division by zero is made for a layout. -/
theorem IsDivision.layout : @layout α _ _ _ ⟨quotient⟩ _ d = d.layout := by
  unfold Diagram.layout layoutIn
  simp only [divides.canvasWidth, divides.availableCross, divides.placement]

theorem IsDivision.boxShare {hw hh dx dy : α} (way : dx ≠ 0 ∨ dy ≠ 0) :
    @boxShare α ⟨quotient⟩ _ hw hh dx dy = Diagram.boxShare hw hh dx dy := by
  unfold Diagram.boxShare
  rw [Exact.abs_eq, Exact.abs_eq]
  by_cases upright : dx = 0
  · have up := abs_ne_zero.mpr (way.resolve_left (not_not.mpr upright))
    rw [if_pos ((Exact.isZero_iff dx).mpr upright), if_pos ((Exact.isZero_iff dx).mpr upright)]
    exact divides hh |dy| up
  · have along := abs_ne_zero.mpr upright
    rw [if_neg ((Exact.isZero_iff dx).not.mpr upright),
      if_neg ((Exact.isZero_iff dx).not.mpr upright)]
    by_cases level : dy = 0
    · rw [if_pos ((Exact.isZero_iff dy).mpr level), if_pos ((Exact.isZero_iff dy).mpr level)]
      exact divides hw |dx| along
    · rw [if_neg ((Exact.isZero_iff dy).not.mpr level),
        if_neg ((Exact.isZero_iff dy).not.mpr level)]
      exact congrArg₂ Scalar.min (divides hw |dx| along) (divides hh |dy| (abs_ne_zero.mpr level))

/-- No division by zero is made for the share of a straight shape. -/
theorem IsDivision.share {shape : Shape} (straight : shape ≠ .ellipse) {hw hh dx dy : α}
    (wide : 0 < hw) (high : 0 < hh) (way : dx ≠ 0 ∨ dy ≠ 0) :
    @Shape.share α _ _ ⟨quotient⟩ _ shape hw hh dx dy = shape.share hw hh dx dy := by
  cases shape with
  | box => exact divides.boxShare way
  | rounded => exact divides.boxShare way
  | ellipse => exact absurd rfl straight
  | diamond =>
    have across : quotient (Scalar.abs dx) hw = |dx| / hw := by
      rw [divides _ _ wide.ne', Exact.abs_eq]
    have down : quotient (Scalar.abs dy) hh = |dy| / hh := by
      rw [divides _ _ high.ne', Exact.abs_eq]
    have some : |dx| / hw + |dy| / hh ≠ 0 := by
      have x := div_nonneg (abs_nonneg dx) wide.le
      have y := div_nonneg (abs_nonneg dy) high.le
      rcases way with along | up
      · exact (add_pos_of_pos_of_nonneg (div_pos (abs_pos.mpr along) wide) y).ne'
      · exact (add_pos_of_nonneg_of_pos x (div_pos (abs_pos.mpr up) high)).ne'
    show quotient (units 1)
      (quotient (Scalar.abs dx) hw + quotient (Scalar.abs dy) hh) = _
    rw [across, down, divides _ _ some, Shape.share, Exact.abs_eq, Exact.abs_eq]

theorem IsDivision.boundary {p q : Placement α} (separate : p.Separate q) {shape : Shape}
    (straight : shape ≠ .ellipse) :
    @Placement.boundary α _ _ _ ⟨quotient⟩ _ p shape q.centre = p.boundary shape q.centre := by
  have way : q.x - p.x ≠ 0 ∨ q.y - p.y ≠ 0 := way_of_ne separate.centre_ne
  have half : ∀ x : α, 0 < x → 0 < x / units 2 := by
    intro x pos
    rw [units_eq]
    exact div_pos pos two_pos
  have share : @Shape.share α _ _ ⟨quotient⟩ _ shape (quotient p.width (units 2))
        (quotient p.height (units 2)) (q.x - p.x) (q.y - p.y)
      = shape.share (p.width / units 2) (p.height / units 2) (q.x - p.x) (q.y - p.y) := by
    rw [divides.by_units p.width two_ne_zero, divides.by_units p.height two_ne_zero,
      divides.share straight (half _ separate.wide) (half _ separate.high) way]
  have moved := not_isZero_of_way way
  refine (@boundary_of_way α _ _ _ ⟨quotient⟩ _ p shape q.centre moved).trans ?_
  rw [boundary_of_way shape moved]
  exact congrArg (fun share => Point.mk (p.x + (q.x - p.x) * share) (p.y + (q.y - p.y) * share))
    share

/-- No division by zero is made for a line between straight shapes. -/
theorem IsDivision.lineStroke {source target : Figure α}
    (separate : source.placement.Separate target.placement)
    (straight : source.node.shape ≠ .ellipse ∧ target.node.shape ≠ .ellipse)
    (label : Option String) (dashed : Bool) :
    @lineStroke α _ _ _ ⟨quotient⟩ _ source target label dashed
      = Diagram.lineStroke source target label dashed := by
  have middle : ∀ a b : Point α, @midpoint α _ ⟨quotient⟩ _ a b = midpoint a b := by
    intro a b
    exact congrArg₂ Point.mk (divides.by_units (a.x + b.x) two_ne_zero)
      (divides.by_units (a.y + b.y) two_ne_zero)
  unfold Diagram.lineStroke
  rw [divides.boundary separate straight.1, divides.boundary separate.symm straight.2]
  simp only [middle]

end Division

/-! ### Arrows -/

/-- The strokes of a diagram, all divisions being made by an operation. -/
def strokesBy {α : Type} [Add α] [Sub α] [Mul α] [Scalar α] (quotient : α → α → α) (d : Diagram) :
    List (Stroke α) :=
  let _ : Div α := ⟨quotient⟩
  (d.picture (d.layout : Layout α)).strokes

/--
**An arrow leads from outline to outline, the way from centre to centre.**  Of an edge
between two nodes that are boxes or diamonds, the line begins on the outline of the one and
ends on that of the other.  Both points are on the way between the centres, the first one
nearer to where the edge begins, so that the line has a length and does not point back.  No
division by zero is made for it: whatever that might give, the line is the same.
-/
theorem arrow_leads_on {d : Diagram} (checked : d.check = .ok ()) {number i j : Nat} {e : Edge}
    {n m : Node} (edge : d.edges[number]? = some e)
    (source : d.nodes[i]? = some n ∧ n.id = e.source)
    (target : d.nodes[j]? = some m ∧ m.id = e.target) (other : i ≠ j)
    (straight : n.shape ≠ .ellipse ∧ m.shape ≠ .ellipse) :
    ∃ (p q : Placement ℚ) (stroke : Stroke ℚ) (start finish : Point ℚ),
      (d.layout : Layout ℚ).nodes[i]? = some p ∧ (d.layout : Layout ℚ).nodes[j]? = some q ∧
      (d.picture (d.layout : Layout ℚ)).strokes[number]? = some stroke ∧
      stroke.route = .line start finish ∧
      start = p.boundary n.shape q.centre ∧ finish = q.boundary m.shape p.centre ∧
      p.OnOutline n.shape start ∧ q.OnOutline m.shape finish ∧
      (∃ s t, 0 < s ∧ s < t ∧ t < 1 ∧
        start = p.centre.towards q.centre s ∧ finish = p.centre.towards q.centre t) ∧
      (∃ k > 0, finish.x - start.x = k * (q.x - p.x) ∧ finish.y - start.y = k * (q.y - p.y)) ∧
      start ≠ finish ∧
      ∀ quotient : ℚ → ℚ → ℚ, IsDivision quotient →
        (d.strokesBy quotient)[number]? = some stroke := by
  have sound := (check_eq_ok_iff d).mp checked
  obtain ⟨p, begins⟩ := d.exists_placement (α := ℚ) source.1
  obtain ⟨q, ends⟩ := d.exists_placement (α := ℚ) target.1
  have separate := separate_of_ne begins ends other
  have rooted_p : n.shape.Rooted ℚ := Shape.rooted_of_ne straight.1
  have rooted_q : m.shape.Rooted ℚ := Shape.rooted_of_ne straight.2
  obtain ⟨s, t, start, finish, ahead, onward, short⟩ := separate.line rooted_p rooted_q
  have drawn := sound.getElem?_strokes edge source target begins ends
  simp only [if_neg other] at drawn
  refine ⟨p, q, _, _, _, begins, ends, drawn, rfl, rfl, rfl, separate.onOutline rooted_p,
    separate.symm.onOutline rooted_q, ⟨s, t, ahead, onward, short, start, finish⟩,
    ⟨t - s, sub_pos.mpr onward, ?_⟩, ?_, ?_⟩
  · show (q.boundary m.shape p.centre).x - (p.boundary n.shape q.centre).x = _ ∧ _ = _
    rw [start, finish]
    exact Point.towards_sub p.centre q.centre s t
  · show p.boundary n.shape q.centre ≠ q.boundary m.shape p.centre
    rw [start, finish]
    exact Point.towards_ne separate.centre_ne onward.ne
  · intro quotient divides
    have same := divides.layout d
    have drawn' := @Sound.getElem?_strokes ℚ _ _ _ ⟨quotient⟩ _ d sound number i j e n m p q edge
      source target (same ▸ begins) (same ▸ ends)
    simp only [if_neg other] at drawn'
    rw [divides.lineStroke separate straight] at drawn'
    exact drawn'

/-- A decision with two ways out. -/
def fork : Diagram where
  title := some "Fork"
  direction := .leftRight
  nodes := [⟨"a", "ready?", .diamond⟩, ⟨"b", "go", .box⟩, ⟨"c", "wait", .rounded⟩]
  edges := [⟨"a", "b", some "yes"⟩, ⟨"a", "c", some "no"⟩]

/-- One of its arrows, from a diamond down to a rounded box. -/
theorem arrow_leads_on_fork : fork.check = .ok () ∧ ∃ (stroke : Stroke ℚ) (start finish : Point ℚ),
    (fork.picture (fork.layout : Layout ℚ)).strokes[1]? = some stroke ∧
      stroke.route = .line start finish ∧ start ≠ finish := by
  have checked : fork.check = .ok () := rfl
  have edge : fork.edges[1]? = some ⟨"a", "c", some "no"⟩ := rfl
  obtain ⟨-, -, stroke, start, finish, -, -, drawn, route, -, -, -, -, -, -, differ, -⟩ :=
    arrow_leads_on checked edge (i := 0) (j := 2) ⟨rfl, rfl⟩ ⟨rfl, rfl⟩ (by decide)
      ⟨by decide, by decide⟩
  exact ⟨checked, stroke, start, finish, drawn, route, differ⟩

end Draftsman.Diagram
