/-
Decimal numbers and their digits.

A decimal is a sign, a natural number of units and the power of ten that one unit
stands for.  The sign is kept for zero too.
-/
namespace Draftsman.Number

/-- The number `± units * 10 ^ exponent`. -/
structure Decimal where
  negative : Bool
  units : Nat
  exponent : Int
  deriving DecidableEq, Repr

/-- The decimal digits of a natural number; zero has one. -/
def digits (n : Nat) : List Char := Nat.toDigits 10 n

/-- `n` zeros. -/
def zeros (n : Nat) : List Char := List.replicate n '0'

/-- Digits with a point before the last `places` of them, and at least one digit before it. -/
def withPoint (places : Nat) (ds : List Char) : List Char :=
  let padded := zeros (places + 1 - ds.length) ++ ds
  if places = 0 then padded
  else padded.take (padded.length - places) ++ '.' :: padded.drop (padded.length - places)

/-- A minus sign for negative numbers. -/
def signText (negative : Bool) : List Char := if negative then ['-'] else []

/-- A decimal written without an exponent; a whole number has no point. -/
def Decimal.positional (d : Decimal) : List Char :=
  signText d.negative ++
    if d.exponent ≥ 0 then
      if d.units = 0 then ['0'] else digits d.units ++ zeros d.exponent.toNat
    else withPoint (-d.exponent).toNat (digits d.units)

end Draftsman.Number
