/-
Blank characters, and text without the blanks at its ends.

A text is read here as the list of its characters.  A character is blank when it
has the Unicode property White_Space, so a no-break space or a line separator is
blank and a zero-width space is not.  Everything in this library that trims, or
asks whether something is blank, means these characters.
-/
import Draftsman.Text.Ranges

namespace Draftsman.Text

/-- The characters with the property White_Space. -/
def blankRanges : Ranges :=
  [(0x9, 0xD), (0x20, 0x20), (0x85, 0x85), (0xA0, 0xA0), (0x1680, 0x1680), (0x2000, 0x200A),
    (0x2028, 0x2029), (0x202F, 0x202F), (0x205F, 0x205F), (0x3000, 0x3000)]

/-- Whether a character is blank. -/
def isBlank (c : Char) : Bool := blankRanges.covers c

/-- The text after its leading characters that satisfy `p`. -/
def dropStart (p : Char → Bool) (text : List Char) : List Char := text.dropWhile p

/-- The text before its trailing characters that satisfy `p`. -/
def dropEnd (p : Char → Bool) (text : List Char) : List Char :=
  (text.reverse.dropWhile p).reverse

/-- The text without its leading blanks. -/
def trimStart (text : List Char) : List Char := dropStart isBlank text

/-- The text without its trailing blanks. -/
def trimEnd (text : List Char) : List Char := dropEnd isBlank text

/-- The text without the blanks at both ends. -/
def trim (text : List Char) : List Char := trimEnd (trimStart text)

/-- Whether a text holds nothing but blanks. -/
def isAllBlank (text : List Char) : Bool := (trim text).isEmpty

/-- A string without the blanks at both ends. -/
def trimmed (s : String) : String := String.ofList (trim s.toList)

/-- Whether a string holds nothing but blanks. -/
def blankString (s : String) : Bool := isAllBlank s.toList

end Draftsman.Text
