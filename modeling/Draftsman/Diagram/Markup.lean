/-
Markup: elements with attributes, and text between them.

A text or the value of an attribute may hold any characters.  Those that mean
something to a reader of markup are written as entities, so whatever a text holds,
it is read back as that text and as nothing else.
-/
namespace Draftsman.Markup

/-- A character as it is written in a text or a value. -/
def escapeChar (c : Char) : List Char :=
  match c with
  | '&' => "&amp;".toList
  | '<' => "&lt;".toList
  | '>' => "&gt;".toList
  | '"' => "&quot;".toList
  | '\'' => "&apos;".toList
  | c => [c]

/-- A text as it is written. -/
def escape (text : List Char) : List Char := text.flatMap escapeChar

/-- A string as it is written. -/
def escaped (s : String) : String := String.ofList (escape s.toList)

/-- An attribute: its name and its value. -/
abbrev Attribute := String × String

/-- An element, by what stands between its opening and its closing tag. -/
inductive Element where
  /-- Nothing: the two tags are one. -/
  | void (name : String) (attributes : List Attribute)
  /-- A text, on the same line. -/
  | text (name : String) (attributes : List Attribute) (content : String)
  /-- Elements on the same line. -/
  | inline (name : String) (attributes : List Attribute) (children : List Element)
  /-- Elements on lines of their own. -/
  | block (name : String) (attributes : List Attribute) (children : List Element)
  deriving Repr

/-- An attribute, after a space. -/
def attributeText (a : Attribute) : List Char :=
  ' ' :: a.1.toList ++ '=' :: '"' :: escape a.2.toList ++ ['"']

/-- A tag without the brackets around it. -/
def tagText (name : String) (attributes : List Attribute) : List Char :=
  name.toList ++ attributes.flatMap attributeText

/-- An opening tag. -/
def openTag (name : String) (attributes : List Attribute) : List Char :=
  '<' :: tagText name attributes ++ ['>']

/-- A closing tag. -/
def closeTag (name : String) : List Char := '<' :: '/' :: name.toList ++ ['>']

/-- A tag that opens and closes. -/
def voidTag (name : String) (attributes : List Attribute) : List Char :=
  '<' :: tagText name attributes ++ ['/', '>']

/-- A line that begins `depth` levels deep. -/
def lineAt (depth : Nat) (text : List Char) : List Char :=
  List.replicate (2 * depth) ' ' ++ text ++ ['\n']

mutual

/-- An element on the line it stands on. -/
def Element.inlineText : Element → List Char
  | .void name attributes => voidTag name attributes
  | .text name attributes content =>
    openTag name attributes ++ escape content.toList ++ closeTag name
  | .inline name attributes children =>
    openTag name attributes ++ inlineTexts children ++ closeTag name
  | .block name attributes children =>
    openTag name attributes ++ inlineTexts children ++ closeTag name

/-- Elements on the line they stand on. -/
def inlineTexts : List Element → List Char
  | [] => []
  | e :: rest => e.inlineText ++ inlineTexts rest

end

mutual

/-- An element on lines of its own, `depth` levels deep. -/
def Element.lines (depth : Nat) : Element → List Char
  | .block name attributes children =>
    lineAt depth (openTag name attributes) ++ linesOf (depth + 1) children ++
      lineAt depth (closeTag name)
  | .void name attributes => lineAt depth (voidTag name attributes)
  | .text name attributes content =>
    lineAt depth (openTag name attributes ++ escape content.toList ++ closeTag name)
  | .inline name attributes children =>
    lineAt depth (openTag name attributes ++ inlineTexts children ++ closeTag name)

/-- Elements on lines of their own. -/
def linesOf (depth : Nat) : List Element → List Char
  | [] => []
  | e :: rest => e.lines depth ++ linesOf depth rest

end

/-- A document with one outermost element. -/
def Element.document (e : Element) : String := String.ofList (e.lines 0)

end Draftsman.Markup
