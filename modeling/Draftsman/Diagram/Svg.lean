/-
Pictures as SVG documents.

Lengths are written with one decimal place, the size of the whole with none.  The
edges are drawn first and the nodes over them.
-/
import Draftsman.Diagram.Markup
import Draftsman.Diagram.Picture
import Draftsman.Diagram.Read
import Draftsman.Number.Places

namespace Draftsman.Diagram

open Draftsman.Number (fixed)
open Draftsman.Markup (Attribute Element)

/-- The colour of lines and arrows. -/
def strokeColour : String := "#333333"

/-- The colour inside nodes. -/
def fillColour : String := "#f5f7fb"

/-- The fonts of all text. -/
def fonts : String := "Helvetica, Arial, sans-serif"

/-- A length as it is written. -/
def lengthText (x : Float) : String := fixed 1 x

/-- A length of the whole as it is written. -/
def wholeText (x : Float) : String := fixed 0 x

/-- The attributes of a text around a point. -/
def centredAt (p : Point Float) : List Attribute :=
  [("x", lengthText p.x), ("y", lengthText p.y), ("text-anchor", "middle")]

/-- The head of an arrow. -/
def arrowHead : Element :=
  .inline "marker"
    [("id", "arrow"), ("viewBox", "0 0 10 10"), ("refX", "10"), ("refY", "5"),
      ("markerWidth", "8"), ("markerHeight", "8"), ("orient", "auto-start-reverse")]
    [.void "path" [("d", "M 0 0 L 10 5 L 0 10 z"), ("fill", strokeColour)]]

/-- What lies under everything else. -/
def background : Element :=
  .void "rect" [("width", "100%"), ("height", "100%"), ("fill", "#ffffff")]

/-- The title. -/
def titleElement (c : Caption Float) : Element :=
  .text "text"
    (("class", "title") :: centredAt c.centre ++ [("font-size", "18"), ("font-weight", "bold")])
    c.text

/-- The width of the ground under the label of an edge. -/
def labelWidth {α : Type} [Add α] [Mul α] [Div α] [Scalar α] (text : String) : α :=
  units text.length * charWidth * (units 9 / units 10) + units 8

/-- The label of an edge, on a white ground. -/
def labelElements (c : Caption Float) : List Element :=
  let width : Float := labelWidth c.text
  [.void "rect"
      [("class", "edge-label"), ("x", lengthText (c.centre.x - width / 2)),
        ("y", lengthText (c.centre.y - 9)), ("width", lengthText width), ("height", "18"),
        ("fill", "#ffffff"), ("stroke", "none")],
    .text "text"
      (centredAt c.centre ++
        [("dominant-baseline", "middle"), ("font-size", "12"), ("stroke", "none"),
          ("fill", strokeColour)])
      c.text]

/-- The attribute of a dashed path. -/
def dashes (dashed : Bool) : List Attribute := if dashed then [("stroke-dasharray", "6 4")] else []

/-- The attribute of a path that ends in an arrow. -/
def arrowed : Attribute := ("marker-end", "url(#arrow)")

/-- The course of a loop. -/
def loopCourse (x top bottom reach : Float) : String :=
  let x := lengthText x
  let top := lengthText top
  let bottom := lengthText bottom
  let reach := lengthText reach
  s!"M {x} {top} C {reach} {top}, {reach} {bottom}, {x} {bottom}"

/-- The path of an edge. -/
def routeElement (dashed : Bool) : Route Float → Element
  | .line start finish =>
    .void "line"
      ([("class", "edge"), ("x1", lengthText start.x), ("y1", lengthText start.y),
          ("x2", lengthText finish.x), ("y2", lengthText finish.y)] ++
        dashes dashed ++ [arrowed])
  | .loop x top bottom reach =>
    .void "path"
      ([("class", "edge"), ("d", loopCourse x top bottom reach)] ++ dashes dashed ++ [arrowed])

/-- An edge and its label. -/
def strokeElements (s : Stroke Float) : List Element :=
  routeElement s.dashed s.route :: (s.label.map labelElements).getD []

/-- How the outlines of nodes are drawn. -/
def outlineStyle : List Attribute :=
  [("fill", fillColour), ("stroke", strokeColour), ("stroke-width", "1.5")]

/-- The attributes of a box. -/
def boxAttributes (p : Placement Float) : List Attribute :=
  [("x", lengthText (p.x - p.width / 2)), ("y", lengthText (p.y - p.height / 2)),
    ("width", lengthText p.width), ("height", lengthText p.height)]

/-- The four corners of a diamond. -/
def diamondCorners (p : Placement Float) : String :=
  let x := lengthText p.x
  let y := lengthText p.y
  let left := lengthText (p.x - p.width / 2)
  let top := lengthText (p.y - p.height / 2)
  let right := lengthText (p.x + p.width / 2)
  let bottom := lengthText (p.y + p.height / 2)
  s!"{x},{top} {right},{y} {x},{bottom} {left},{y}"

/-- The outline of a node. -/
def outlineElement (shape : Shape) (p : Placement Float) : Element :=
  match shape with
  | .box => .void "rect" (boxAttributes p ++ outlineStyle)
  | .rounded => .void "rect" (boxAttributes p ++ [("rx", "14"), ("ry", "14")] ++ outlineStyle)
  | .ellipse =>
    .void "ellipse"
      ([("cx", lengthText p.x), ("cy", lengthText p.y), ("rx", lengthText (p.width / 2)),
          ("ry", lengthText (p.height / 2))] ++ outlineStyle)
  | .diamond => .void "polygon" (("points", diamondCorners p) :: outlineStyle)

/-- A node: its outline, and its label in the middle. -/
def figureElement (f : Figure Float) : Element :=
  .block "g" [("class", "node"), ("data-id", f.node.id)]
    [outlineElement f.node.shape f.placement,
      .text "text" (centredAt f.placement.centre ++ [("dominant-baseline", "middle")]) f.node.label]

/-- The attributes of the outermost element. -/
def canvasAttributes (width height : String) : List Attribute :=
  [("xmlns", "http://www.w3.org/2000/svg"), ("width", width), ("height", height),
    ("viewBox", s!"0 0 {width} {height}"), ("font-family", fonts), ("font-size", "14")]

/-- A picture as a tree of elements. -/
def Picture.element (p : Picture Float) : Element :=
  .block "svg" (canvasAttributes (wholeText p.width) (wholeText p.height)) <|
    [.block "defs" [] [arrowHead], background] ++ (p.title.map titleElement).toList ++
      [.block "g"
          [("class", "edges"), ("stroke", strokeColour), ("stroke-width", "1.5"), ("fill", "none")]
          (p.strokes.flatMap strokeElements),
        .block "g" [("class", "nodes")] (p.figures.map figureElement)]

/-- A diagram as it is laid out in a document. -/
def svgOf (d : Diagram) (layout : Layout Float) : String := (d.picture layout).element.document

/-- The document that shows a diagram. -/
def svg (d : Diagram) : String := d.svgOf d.layout

/-- The document that shows the diagram a text describes. -/
def render (text : String) : Except Fault String := do .ok (← ofText text).svg

end Draftsman.Diagram
