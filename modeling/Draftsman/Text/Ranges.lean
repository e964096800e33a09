/-
Sets of characters, given as ranges of code points.

A property of the Unicode standard is a long table.  Every such table of this
library is a list of closed ranges in ascending order, and `Ranges.covers` says
whether a character lies in one of them.
-/
namespace Draftsman.Text

/-- Closed ranges of code points, in ascending order. -/
abbrev Ranges := List (Nat × Nat)

/-- Whether a character lies in one of the ranges. -/
def Ranges.covers (ranges : Ranges) (c : Char) : Bool :=
  ranges.any fun range => range.1 ≤ c.toNat && c.toNat ≤ range.2

end Draftsman.Text
