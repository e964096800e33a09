/-
Tables of code points, written as text.

A long table of the Unicode standard is a list of lines, and a line is made of words
with a space between each two of them.  A word is one row of its table: some
hexadecimal numbers with colons between them.  What the numbers of a row mean is
for each table to say.
-/
import Draftsman.Text.Ranges

namespace Draftsman.Text

/-- The value of a hexadecimal digit. -/
def chartDigit (c : Char) : Nat :=
  if c.isDigit then c.toNat - '0'.toNat else c.toNat - 'A'.toNat + 10

/-- The number that hexadecimal digits stand for. -/
def chartNumber (ds : List Char) : Nat := ds.foldl (fun n d => n * 16 + chartDigit d) 0

/-- The rows of a table. -/
def chartRows (lines : List String) : List (List Nat) :=
  lines.flatMap fun line =>
    (line.toList.splitOn ' ').map fun word => (word.splitOn ':').map chartNumber

/-- The ranges of a table whose rows are a range each, or a single code point. -/
def Ranges.ofLines (lines : List String) : Ranges :=
  (chartRows lines).filterMap fun row =>
    match row with
    | [first, last] => some (first, last)
    | [only] => some (only, only)
    | _ => none

/-- What stands behind a code point in the row that begins with it. -/
def rowOf? (rows : List (List Nat)) (n : Nat) : Option (List Nat) :=
  (rows.find? fun row => row.head? == some n).map List.tail

/-- Code points at equal distances, which are all shifted as far as the first. -/
structure Shift where
  first : Nat
  count : Nat
  distance : Nat
  image : Nat

/-- The shifts of a table whose rows are a shift each. -/
def Shift.ofLines (lines : List String) : List Shift :=
  (chartRows lines).filterMap fun row =>
    match row with
    | [first, count, distance, image] => some ⟨first, count, distance, image⟩
    | _ => none

/-- What a code point is shifted to, if it is among those of a shift. -/
def Shift.image? (s : Shift) (n : Nat) : Option Nat :=
  if s.first ≤ n ∧ (n - s.first) % s.distance = 0 ∧ (n - s.first) / s.distance < s.count then
    some (s.image + (n - s.first))
  else none

end Draftsman.Text
