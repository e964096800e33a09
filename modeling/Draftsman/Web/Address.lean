/-
Numeric addresses of hosts.

The older addresses are numbers of 32 bits.  They are written as up to four numbers,
decimal, octal or hexadecimal, of which the last fills what the others leave, and
their usual form has four decimal numbers.  The newer ones have eight pieces of 16
bits; in their usual form the longest run of zeros is left out.
-/
import Draftsman.Text.Cut
import Draftsman.Web.Percent

namespace Draftsman.Web

open Draftsman.Text

/-! ### Addresses of 32 bits -/

/-- The number that digits of a base stand for, if all of them are digits of it. -/
def numberIn? (base : Nat) (ds : List Char) : Option Nat :=
  ds.foldlM (fun n d => do
    let value ← hexDigitValue? d
    if value < base then some (n * base + value) else none) 0

/-- The number that a part of an address stands for; its beginning tells its base. -/
def partNumber? : List Char → Option Nat
  | [] => none
  | '0' :: 'x' :: ds => numberIn? 16 ds
  | '0' :: 'X' :: ds => numberIn? 16 ds
  | '0' :: d :: ds => numberIn? 8 (d :: ds)
  | ds => numberIn? 10 ds

/-- The parts of a name between its points, but for an empty last part. -/
def nameParts (name : List Char) : List (List Char) :=
  let parts := name.splitOn '.'
  if parts.getLast? = some [] then parts.dropLast else parts

/-- Whether a name has to be an address: its last part is a number. -/
def endsInNumber (name : List Char) : Bool :=
  match (nameParts name).getLast? with
  | some last => (!last.isEmpty && last.all Char.isDigit) || (partNumber? last).isSome
  | none => false

/-- The address of some numbers, if all are small enough. -/
def addressOf? (ns : List Nat) : Option Nat :=
  match ns.reverse with
  | [] => none
  | last :: others =>
    if others.length ≤ 3 ∧ others.all (· ≤ 255) ∧ last < Nat.pow 256 (4 - others.length) then
      some (others.reverse.foldl (fun n part => n * 256 + part) 0 *
        Nat.pow 256 (4 - others.length) + last)
    else none

/-- The address that a name is. -/
def address? (name : List Char) : Option Nat := ((nameParts name).mapM partNumber?).bind addressOf?

/-- An address of 32 bits as it is written. -/
def addressText (n : Nat) : List Char :=
  let parts := [n / 0x1000000 % 256, n / 0x10000 % 256, n / 0x100 % 256, n % 256]
  ['.'].intercalate (parts.map (Nat.toDigits 10))

/-! ### Addresses of eight pieces -/

/-- The value of a piece, which has one to four digits. -/
def piece? (ds : List Char) : Option Nat :=
  if 1 ≤ ds.length ∧ ds.length ≤ 4 then numberIn? 16 ds else none

/-- The value of a decimal number up to 255 without zeros before it. -/
def octet? (ds : List Char) : Option Nat :=
  match ds with
  | [] => none
  | first :: rest =>
    if first = '0' ∧ rest ≠ [] then none
    else (numberIn? 10 ds).bind fun n => if n ≤ 255 then some n else none

/-- The two pieces of four decimal numbers. -/
def octetPieces? (text : List Char) : Option (List Nat) := do
  match ← (text.splitOn '.').mapM octet? with
  | [a, b, c, d] => some [a * 256 + b, c * 256 + d]
  | _ => none

/-- The pieces between colons; the last two may be written as four decimal numbers. -/
def pieces? (octets : Bool) (text : List Char) : Option (List Nat) :=
  if text.isEmpty then some []
  else
    let groups := text.splitOn ':'
    let last := groups.getLast?.getD []
    if octets && last.contains '.' then do
      some ((← groups.dropLast.mapM piece?) ++ (← octetPieces? last))
    else groups.mapM piece?

/-- What stands before and behind the first two colons in a row, if there are any. -/
def cutGap : List Char → Option (List Char × List Char)
  | ':' :: ':' :: rest => some ([], rest)
  | c :: rest => (cutGap rest).map fun (before, after) => (c :: before, after)
  | [] => none

/-- The eight pieces of an address; two colons stand for at least one zero. -/
def longAddress? (text : List Char) : Option (List Nat) :=
  match cutGap text with
  | none => (pieces? true text).bind fun ps => if ps.length = 8 then some ps else none
  | some (before, after) => do
    let first ← pieces? false before
    let last ← pieces? true after
    if first.length + last.length ≤ 7 then
      some (first ++ List.replicate (8 - first.length - last.length) 0 ++ last)
    else none

/-- How many zeros a list begins with. -/
def leadingZeros (ps : List Nat) : Nat := (ps.takeWhile (· == 0)).length

/-- Where the longest run of zeros begins, the first of several, and its length. -/
def longestGap : (start : Nat) → List Nat → Nat × Nat
  | start, [] => (start, 0)
  | start, p :: ps =>
    let here := leadingZeros (p :: ps)
    let later := longestGap (start + 1) ps
    if later.2 ≤ here then (start, here) else later

/-- Pieces with colons between them. -/
def piecesText (ps : List Nat) : List Char := [':'].intercalate (ps.map (Nat.toDigits 16))

/-- An address of eight pieces as it is written; a single zero is not left out. -/
def longAddressText (ps : List Nat) : List Char :=
  let (start, size) := longestGap 0 ps
  if size < 2 then piecesText ps
  else piecesText (ps.take start) ++ "::".toList ++ piecesText (ps.drop (start + size))

end Draftsman.Web
