/-
Cutting a text into parts: at a character, behind a beginning, before an ending,
into lines or into words.
-/
import Draftsman.Text.Blank

namespace Draftsman.Text

/-- What stands before and after the first occurrence of `c`, if there is one. -/
def cut (c : Char) : List Char → Option (List Char × List Char)
  | [] => none
  | x :: rest =>
    if x = c then some ([], rest)
    else (cut c rest).map fun (before, after) => (x :: before, after)

/-- The text without `c` at its end, if it ends in `c`. -/
def dropLast? (c : Char) (text : List Char) : Option (List Char) :=
  if text.getLast? = some c then some text.dropLast else none

/-- The text without a given beginning, if it begins so. -/
def dropPrefix? : List Char → List Char → Option (List Char)
  | [], text => some text
  | _ :: _, [] => none
  | p :: ps, c :: text => if p = c then dropPrefix? ps text else none

/-- The text without a given ending, if it ends so. -/
def dropSuffix? (ending text : List Char) : Option (List Char) :=
  (dropPrefix? ending.reverse text.reverse).map List.reverse

/-- Whether a text begins with another. -/
def startsWith (start text : List Char) : Bool := (dropPrefix? start text).isSome

/-- A line without the carriage return that ended it together with its line feed. -/
def dropReturn (line : List Char) : List Char := (dropLast? '\r' line).getD line

/--
The lines of a text.  A line ends at a line feed, or at a carriage return and a
line feed; a text that ends so has no further, empty line behind it.
-/
def lines (text : List Char) : List (List Char) :=
  match (text.splitOn '\n').reverse with
  | [] => []
  | last :: ended =>
    ended.reverse.map dropReturn ++ (if last.isEmpty then [] else [last])

/-- The lines of a text, each with the line feed that ends it; together they are the text. -/
def wholeLines : List Char → List (List Char)
  | [] => []
  | '\n' :: rest => ['\n'] :: wholeLines rest
  | c :: rest =>
    match wholeLines rest with
    | [] => [[c]]
    | line :: more => (c :: line) :: more

/-- The words of a text, which are what stands between its blanks. -/
def words (text : List Char) : List (List Char) :=
  (text.splitOnP isBlank).filter fun word => !word.isEmpty

end Draftsman.Text
