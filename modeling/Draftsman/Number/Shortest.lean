/-
The shortest decimal that reads back as a given binary number.

Every real number between the two midpoints around a binary number is read as that
number; the midpoints themselves are when its significand is even.  The grid of
decimals with one digit is tried first, then with two, and so on: the first grid
with a point between the midpoints wins, and of two such points the one nearer to
the number.  A grid has such a point only if one of the two points around the
number itself is one, so no other point has to be looked at.  Which of two equally
near points is taken depends on the kind of text that is written.
-/
import Draftsman.Number.Binary
import Draftsman.Number.Decimal

namespace Draftsman.Number

/-- The greatest `k` with `10 ^ k ≤ num / den`, for a positive quotient. -/
def magnitude (num den : Nat) : Int :=
  if den ≤ num then ((digits (num / den)).length - 1 : Nat)
  else
    let length := (digits (den / num)).length
    if den ≤ num * Nat.pow 10 (length - 1) then -((length - 1 : Nat) : Int) else -(length : Int)

/--
The reals that are read as one binary number: its own value and the two ends, over
a common denominator.
-/
structure Neighbourhood where
  value : Nat
  low : Nat
  high : Nat
  denominator : Nat
  /-- Whether the ends belong to it. -/
  closed : Bool

/-- The neighbourhood of `significand * 2 ^ exponent`, in quarters of a unit. -/
def Neighbourhood.of (format : BinaryFormat) (significand : Nat) (exponent : Int) : Neighbourhood :=
  let scale := Nat.pow 2 (exponent - 2).toNat
  let below :=
    if significand = format.fractions ∧ format.leastExponent < exponent then 1 else 2
  { value := 4 * significand * scale
    low := (4 * significand - below) * scale
    high := (4 * significand + 2) * scale
    denominator := Nat.pow 2 (2 - exponent).toNat
    closed := significand % 2 == 0 }

/-- The neighbourhood measured in units of `10 ^ k`. -/
def Neighbourhood.inUnits (n : Neighbourhood) (k : Int) : Neighbourhood :=
  let up := Nat.pow 10 (-k).toNat
  { value := n.value * up
    low := n.low * up
    high := n.high * up
    denominator := n.denominator * Nat.pow 10 k.toNat
    closed := n.closed }

/-- Whether a whole number of units lies in the neighbourhood. -/
def Neighbourhood.holds (n : Neighbourhood) (units : Nat) : Bool :=
  let x := units * n.denominator
  if n.closed then n.low ≤ x && x ≤ n.high else n.low < x && x < n.high

/-- Which of two points is taken that are equally near to a number. -/
inductive Tie where
  /-- The one with an even number of units. -/
  | toEven
  /-- The one farther from zero. -/
  | away
  deriving DecidableEq, Repr

/-- Whether a tie between `floor` and `floor + 1` units goes to the lower one. -/
def Tie.keepsFloor (tie : Tie) (floor : Nat) : Bool :=
  match tie with
  | .toEven => floor % 2 == 0
  | .away => false

/-- The whole number of units in the neighbourhood that is nearest to its value. -/
def Neighbourhood.nearest? (n : Neighbourhood) (tie : Tie) : Option Nat :=
  let floor := n.value / n.denominator
  match n.holds floor, n.holds (floor + 1) with
  | false, false => none
  | true, false => some floor
  | false, true => some (floor + 1)
  | true, true =>
    let rest := 2 * (n.value % n.denominator)
    if rest < n.denominator ∨ (rest = n.denominator ∧ tie.keepsFloor floor) then some floor
    else some (floor + 1)

/-- Units without the zeros at their end, and how many those were. -/
def stripZeros : Nat → Nat → Nat × Nat
  | 0, units => (units, 0)
  | fuel + 1, units =>
    if units ≠ 0 ∧ units % 10 = 0 then
      let (rest, count) := stripZeros fuel (units / 10)
      (rest, count + 1)
    else (units, 0)

/-- The first grid with a hit, from grids of `10 ^ k` down, `tries` of them. -/
def searchGrids (n : Neighbourhood) (tie : Tie) : Nat → Int → Nat × Int
  | 0, k => ((n.inUnits k).value / (n.inUnits k).denominator, k)
  | tries + 1, k =>
    match (n.inUnits k).nearest? tie with
    | some units => (units, k)
    | none => searchGrids n tie tries (k - 1)

/-- The shortest decimal that reads back as `± significand * 2 ^ exponent`. -/
def shortest (format : BinaryFormat) (tie : Tie) (negative : Bool) (significand : Nat)
    (exponent : Int) : Decimal :=
  if significand = 0 then ⟨negative, 0, 0⟩
  else
    let n := Neighbourhood.of format significand exponent
    let (units, k) := searchGrids n tie 17 (magnitude n.value n.denominator)
    let (units, count) := stripZeros 20 units
    ⟨negative, units, k + count⟩

/--
A number of a format in the fewest digits and without an exponent; a tie goes away
from zero.
-/
def Binary.display (format : BinaryFormat) : Binary → List Char
  | .finite negative significand exponent =>
    (shortest format .away negative significand exponent).positional
  | .infinite negative => signText negative ++ "inf".toList
  | .nan => "NaN".toList

/-- A number of 32 bits in the fewest digits and without an exponent. -/
def display32 (x : Float32) : String :=
  String.ofList ((Binary.ofFloat32 x).display .single)

end Draftsman.Number
