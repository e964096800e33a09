/-
Drawing as a tool that a model can use.
-/
import Draftsman.Agent.Tool
import Draftsman.Diagram.Svg

namespace Draftsman.Diagram

/-- The name of the tool. -/
def toolName : String := "generate_diagram"

/-- Tells a model how diagrams are written. -/
def toolDescription : String :=
  "Render a diagram to SVG. Input is either JSON " ++
    "\x7b\"title\", \"direction\": \"TB\"|\"LR\", " ++
    "\"nodes\": [\x7b\"id\", \"label\", \"shape\"\x7d], " ++
    "\"edges\": [\x7b\"from\", \"to\", \"label\"\x7d]\x7d " ++
    "with shapes box, rounded, ellipse, diamond; " ++
    "or one statement per line: `title: ...`, `direction: LR`, `id [Label]` (box), " ++
    "`id (Label)` (rounded), `id ((Label))` (ellipse), `id \x7bLabel\x7d` (diamond), " ++
    "`a -> b` or `a -> b: label`. Returns the SVG markup."

/-- The document that shows a diagram, or what is wrong with its text. -/
def drawn (text : String) : Except ToolFault String :=
  (render text).mapError fun fault => .invalidInput fault.message

/-- The tool. -/
def tool : Tool where
  name := toolName
  description := toolDescription
  call _ input := .immediate (drawn input)

/-- The document drawn last, given the inputs of all calls. -/
def lastDrawn (inputs : List String) : Option String :=
  (inputs.filterMap fun input => (drawn input).toOption).getLast?

end Draftsman.Diagram
