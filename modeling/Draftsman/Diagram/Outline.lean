/-
Where an edge meets the outline of a node.

An edge runs along the line between the centres of its nodes, and is drawn from
outline to outline.  The point on an outline is the centre plus a share of the way
to the other centre; the share depends on the shape.
-/
import Draftsman.Diagram.Layout

namespace Draftsman.Diagram

variable {α : Type} [Add α] [Sub α] [Mul α] [Div α] [Scalar α]

/-- A point of the plane. -/
structure Point (α : Type) where
  x : α
  y : α
  deriving Repr

/-- The square of a number. -/
def square (x : α) : α := x * x

/-- The share of the way `(dx, dy)` from the centre at which a box is left. -/
def boxShare (halfWidth halfHeight dx dy : α) : α :=
  if Scalar.isZero dx then halfHeight / Scalar.abs dy
  else if Scalar.isZero dy then halfWidth / Scalar.abs dx
  else Scalar.min (halfWidth / Scalar.abs dx) (halfHeight / Scalar.abs dy)

/-- The share of the way `(dx, dy)` from the centre at which a shape is left. -/
def Shape.share (shape : Shape) (halfWidth halfHeight dx dy : α) : α :=
  match shape with
  | .box => boxShare halfWidth halfHeight dx dy
  | .rounded => boxShare halfWidth halfHeight dx dy
  | .ellipse =>
    units 1 / Scalar.sqrt (square (dx / halfWidth) + square (dy / halfHeight))
  | .diamond =>
    units 1 / (Scalar.abs dx / halfWidth + Scalar.abs dy / halfHeight)

/-- The centre of a node. -/
def Placement.centre (p : Placement α) : Point α := ⟨p.x, p.y⟩

/-- The point on the outline of a node towards a point; the centre itself if that is it. -/
def Placement.boundary (p : Placement α) (shape : Shape) (toward : Point α) : Point α :=
  let dx := toward.x - p.x
  let dy := toward.y - p.y
  if Scalar.isZero dx && Scalar.isZero dy then p.centre
  else
    let share := shape.share (p.width / units 2) (p.height / units 2) dx dy
    ⟨p.x + dx * share, p.y + dy * share⟩

end Draftsman.Diagram
