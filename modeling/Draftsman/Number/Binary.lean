/-
Binary floating-point numbers, taken apart.

A finite number is a sign, a natural significand and a power of two.  Every text
this library makes of a number starts from these three, in exact arithmetic, so
no rounding happens but the one the text asks for.
-/
namespace Draftsman.Number

/-- How many bits of a number hold its fraction and how many its exponent. -/
structure BinaryFormat where
  fractionBits : Nat
  exponentBits : Nat
  deriving DecidableEq, Repr

/-- Numbers of 64 bits. -/
def BinaryFormat.double : BinaryFormat := ⟨52, 11⟩

/-- Numbers of 32 bits. -/
def BinaryFormat.single : BinaryFormat := ⟨23, 8⟩

/-- How many different fractions there are. -/
def BinaryFormat.fractions (format : BinaryFormat) : Nat := Nat.pow 2 format.fractionBits

/-- How many different exponents there are. -/
def BinaryFormat.exponents (format : BinaryFormat) : Nat := Nat.pow 2 format.exponentBits

/-- The exponent of the smallest numbers of a format, those without a leading one. -/
def BinaryFormat.leastExponent (format : BinaryFormat) : Int :=
  2 - (format.exponents / 2 : Nat) - format.fractionBits

/-- What the bits of a number mean. -/
inductive Binary where
  /-- The number `± significand * 2 ^ exponent`. -/
  | finite (negative : Bool) (significand : Nat) (exponent : Int)
  | infinite (negative : Bool)
  | nan
  deriving DecidableEq, Repr

/-- The meaning of a bit pattern in a format. -/
def Binary.ofBits (format : BinaryFormat) (bits : Nat) : Binary :=
  let fraction := bits % format.fractions
  let biased := bits / format.fractions % format.exponents
  let negative := bits / format.fractions / format.exponents % 2 == 1
  if biased + 1 = format.exponents then
    if fraction = 0 then .infinite negative else .nan
  else if biased = 0 then .finite negative fraction format.leastExponent
  else
    .finite negative (format.fractions + fraction) (format.leastExponent + (biased - 1 : Nat))

/-- The parts of a number of 64 bits. -/
def Binary.ofFloat (x : Float) : Binary := .ofBits .double x.toBits.toNat

/-- The parts of a number of 32 bits. -/
def Binary.ofFloat32 (x : Float32) : Binary := .ofBits .single x.toBits.toNat

end Draftsman.Number
