/-
The headings in a reply.

A model is asked to write its reply under headings such as `Thought:`, each at the
beginning of a line.  It may decorate a heading as Markdown does and write it in
upper or lower case, and its text may begin on the same line.
-/
import Draftsman.Text.Cut

namespace Draftsman.Reply

open Draftsman.Text

/-- What a section of a reply is. -/
inductive Label where
  | thought
  | action
  | actionInput
  | finalAnswer
  | observation
  deriving DecidableEq, Repr

/-- The wordings of headings, in the order in which they are tried. -/
def wordings : List (List String) :=
  [["final", "answer"], ["action", "input"], ["action"], ["thought"], ["observation"]]

/-- The label that the words of a heading mean, in small letters. -/
def Label.ofWords (words : List String) : Label :=
  if words = ["final", "answer"] then .finalAnswer
  else if words = ["action", "input"] then .actionInput
  else if words = ["action"] then .action
  else if words = ["thought"] then .thought
  else .observation

/-- A heading at the beginning of a line, and what stands behind it. -/
structure Heading where
  /-- The marks before the words. -/
  decoration : List Char
  /-- The words as they are written. -/
  wording : List Char
  /-- The colon and the marks around it. -/
  ending : List Char
  /-- The rest of the line. -/
  rest : List Char
  deriving DecidableEq, Repr

/-- The whole heading as it is written. -/
def Heading.text (h : Heading) : List Char := h.decoration ++ h.wording ++ h.ending

/-- The label of a heading. -/
def Heading.label (h : Heading) : Label :=
  .ofWords ((words (h.wording.map Char.toLower)).map String.ofList)

/-- Whether a heading begins with a mark that also begins a remark. -/
def Heading.isRemark (h : Heading) : Bool := h.decoration.contains '#'

/-- Whether a character may stand between the words of a heading. -/
def isGap (c : Char) : Bool := c == ' ' || c == '\t'

/-- Whether a character may stand before the words of a heading. -/
def isDecoration (c : Char) : Bool :=
  isGap c || c == '>' || c == '*' || c == '_' || c == '#' || c == '-'

/-- Whether a character may stand around the colon of a heading. -/
def isMark (c : Char) : Bool := isGap c || c == '*' || c == '_'

/-- Whether a character counts as a small letter: in either case, and a long s as an s. -/
def isLetter (letter c : Char) : Bool := c.toLower == letter || (letter == 's' && c == 'ſ')

/-- Reads the letters of a word; the answer is the letters as they are written, and the rest. -/
def readLetters : List Char → List Char → Option (List Char × List Char)
  | [], text => some ([], text)
  | _ :: _, [] => none
  | letter :: letters, c :: text =>
    if isLetter letter c then
      (readLetters letters text).map fun (written, rest) => (c :: written, rest)
    else none

/-- Reads words with gaps between them. -/
def readWords : List String → List Char → Option (List Char × List Char)
  | [], text => some ([], text)
  | [word], text => readLetters word.toList text
  | word :: words, text => do
    let (written, rest) ← readLetters word.toList text
    let gap := rest.takeWhile isGap
    if gap.isEmpty then none
    else
      let (others, rest) ← readWords words (rest.dropWhile isGap)
      some (written ++ gap ++ others, rest)

/-- Reads the colon behind the words and the marks around it. -/
def readEnding (text : List Char) : Option (List Char × List Char) :=
  match text.dropWhile isMark with
  | ':' :: rest =>
    some (text.takeWhile isMark ++ ':' :: rest.takeWhile isMark, rest.dropWhile isMark)
  | _ => none

/-- The heading with a given wording at the beginning of a line. -/
def headingWith? (line : List Char) (wording : List String) : Option Heading := do
  let (written, rest) ← readWords wording (line.dropWhile isDecoration)
  let (ending, rest) ← readEnding rest
  some ⟨line.takeWhile isDecoration, written, ending, rest⟩

/-- The heading at the beginning of a line, if there is one. -/
def heading? (line : List Char) : Option Heading := wordings.findSome? (headingWith? line)

end Draftsman.Reply
