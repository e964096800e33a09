/-
Numbers with a fixed count of decimal places.

The exact value is rounded once, to the nearest multiple of the last place, and a
value halfway between two multiples goes to the even one.
-/
import Draftsman.Number.Binary
import Draftsman.Number.Decimal

namespace Draftsman.Number

/-- The quotient rounded to the nearest whole number, a half to the even neighbour. -/
def roundHalfEven (num den : Nat) : Nat :=
  let q := num / den
  let r := num % den
  if 2 * r < den then q
  else if 2 * r = den then q + q % 2
  else q + 1

/-- How many units of the last decimal place are nearest to `significand * 2 ^ exponent`. -/
def unitsAt (places significand : Nat) (exponent : Int) : Nat :=
  roundHalfEven (significand * Nat.pow 10 places * Nat.pow 2 exponent.toNat)
    (Nat.pow 2 (-exponent).toNat)

/-- A number with `places` decimal places. -/
def Binary.withPlaces (places : Nat) : Binary → List Char
  | .finite negative significand exponent =>
    signText negative ++ withPoint places (digits (unitsAt places significand exponent))
  | .infinite negative => signText negative ++ "inf".toList
  | .nan => "NaN".toList

/-- A number of 64 bits with `places` decimal places. -/
def fixed (places : Nat) (x : Float) : String :=
  String.ofList ((Binary.ofFloat x).withPlaces places)

end Draftsman.Number
