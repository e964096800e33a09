/-
Numbers as JSON writes them.

A number without a point and without an exponent is a whole number as long as it
fits in 64 bits; every other number is a decimal, and its value is the floating-
point number that the decimal stands for.  Of a decimal, only the leading digits
that fit in 64 bits count; whole digits behind them still count as powers of ten.
-/
import Draftsman.Number.Shortest

namespace Draftsman.Json

open Draftsman.Number

/-- A number in a JSON text. -/
inductive Number where
  | whole (value : Int)
  | decimal (value : Decimal)
  deriving DecidableEq, Repr

/-- The greatest number of 64 bits. -/
def maxWord : Nat := 0xFFFFFFFFFFFFFFFF

/-- Ten to the power `n`, rounded to a number of 64 bits. -/
def powerOfTen (n : Nat) : Float := Float.ofScientific 1 false n

/-- The greatest power of ten that is a number of 64 bits. -/
def greatestPower : Nat := 308

/--
A number of 64 bits times `10 ^ (-n)`, by one power of ten after another; `steps`
bounds how many.
-/
def scaleDown (x : Float) (n : Nat) : (steps : Nat) → Float
  | 0 => x / powerOfTen n
  | steps + 1 =>
    if n ≤ greatestPower then x / powerOfTen n
    else if x == 0 then x
    else scaleDown (x / powerOfTen greatestPower) (n - greatestPower) steps

/-- A number of 64 bits times `10 ^ n`, unless that is beyond all of them. -/
def scaleUp (x : Float) (n : Nat) : Option Float :=
  if n ≤ greatestPower then
    let y := x * powerOfTen n
    if y.isInf then none else some y
  else if x == 0 then some x
  else none

/-- The value of a decimal as a number of 64 bits; none if it is too great for one. -/
def floatOfDecimal? (d : Decimal) : Option Float :=
  let significand := (UInt64.ofNat d.units).toFloat
  let magnitude? :=
    if d.exponent ≥ 0 then scaleUp significand d.exponent.toNat
    else some (scaleDown significand (-d.exponent).toNat 4)
  magnitude?.map fun x => if d.negative then -x else x

/-- The value of a number as a number of 64 bits; none if it is too great for one. -/
def Number.toFloat? : Number → Option Float
  | .whole value => some (Float.ofInt value)
  | .decimal d => floatOfDecimal? d

/--
The shortest number that is read as a number of 64 bits, with an even last digit if
two are equally near; none for those that are not finite.
-/
def Number.ofFloat? (x : Float) : Option Number :=
  match Binary.ofFloat x with
  | .finite negative significand exponent =>
    some (.decimal (shortest .double .toEven negative significand exponent))
  | _ => none

/-! ### A decimal is written with a point or an exponent, so it is read as a decimal again -/

/--
Digits, then a point behind the first unless it stands alone, then the exponent with
its sign.
-/
def scientific (ds : List Char) (exponent : Int) : List Char :=
  let mantissa :=
    match ds with
    | [] => []
    | [d] => [d]
    | d :: rest => d :: '.' :: rest
  mantissa ++ 'e' :: (if exponent < 0 then '-' else '+') :: digits exponent.natAbs

/--
A decimal as it is written: positional from `10 ^ (-5)` up to `10 ^ 16`, with `.0`
behind a whole number, and with an exponent outside.
-/
def decimalText (d : Decimal) : List Char :=
  let ds := digits d.units
  let point : Int := ds.length + d.exponent
  signText d.negative ++
    if d.units = 0 then "0.0".toList
    else if 0 ≤ d.exponent ∧ point ≤ 16 then ds ++ zeros d.exponent.toNat ++ ".0".toList
    else if -5 < point ∧ point ≤ 16 then withPoint (-d.exponent).toNat ds
    else scientific ds (point - 1)

/-- A number as it is written. -/
def Number.text : Number → List Char
  | .whole value => signText (value < 0) ++ digits value.natAbs
  | .decimal d => decimalText d

/-! ### Reading -/

/-- Whether a character is a decimal digit. -/
def isDigit (c : Char) : Bool := '0' ≤ c && c ≤ '9'

/-- The value of a digit. -/
def digitValue (c : Char) : Nat := c.toNat - '0'.toNat

/--
Appends digits to a significand as long as it fits in 64 bits; what is left over are
the digits from the first that does not fit.
-/
def absorb (significand : Nat) : List Char → Nat × List Char
  | [] => (significand, [])
  | d :: rest =>
    let next := significand * 10 + digitValue d
    if next ≤ maxWord then absorb next rest else (significand, d :: rest)

end Draftsman.Json
