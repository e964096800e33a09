/-
Identifiers of 128 bits.

An identifier is written as 32 hexadecimal digits in five groups.  It is read in
either case, with or without the hyphens, and in the braces or behind the scheme
that some programs put around it.
-/
import Draftsman.Text.Cut
import Draftsman.Text.Quoted

namespace Draftsman

open Draftsman.Text

/-- An identifier of 128 bits. -/
structure Uuid where
  bits : BitVec 128
  deriving DecidableEq, Repr

namespace Uuid

/-- The identifier whose bits are all zero. -/
def nil : Uuid := ⟨0⟩

/--
An identifier that is made of a time in milliseconds and of random bits.  Four bits say
that it is, and two more which of several forms it has.
-/
def ofTime (millis random : Nat) : Uuid :=
  let time := BitVec.ofNat 48 millis
  let high := BitVec.ofNat 12 (random >>> 62)
  let low := BitVec.ofNat 62 random
  ⟨time ++ 7#4 ++ high ++ 2#2 ++ low⟩

/-- The lengths of the groups of digits. -/
def groups : List Nat := [8, 4, 4, 4, 12]

/-- The lowest `count` hexadecimal digits of a number. -/
def hexDigits (count n : Nat) : List Char :=
  let ds := Nat.toDigits 16 n
  List.replicate (count - ds.length) '0' ++ ds

/-- Digits with a hyphen between each two groups of the given lengths. -/
def hyphenated : List Nat → List Char → List Char
  | [], ds => ds
  | [_], ds => ds
  | n :: rest, ds => ds.take n ++ '-' :: hyphenated rest (ds.drop n)

/-- An identifier as it is written. -/
def toText (u : Uuid) : String :=
  String.ofList (hyphenated groups (hexDigits 32 u.bits.toNat))

/-- The value of a hexadecimal digit in either case. -/
def hexValue? (c : Char) : Option Nat :=
  let small := c.toLower
  if '0' ≤ small ∧ small ≤ '9' then some (small.toNat - '0'.toNat)
  else if 'a' ≤ small ∧ small ≤ 'f' then some (small.toNat - 'a'.toNat + 10)
  else none

/-- The number that hexadecimal digits stand for. -/
def hexNumber? (ds : List Char) : Option Nat :=
  ds.foldlM (fun n c => (hexValue? c).map (n * 16 + ·)) 0

/-- Digits without the hyphens between groups of the given lengths. -/
def joined? : List Nat → List Char → Option (List Char)
  | [], text => if text.isEmpty then some [] else none
  | [n], text => if text.length = n then some text else none
  | n :: rest, text =>
    match text.drop n with
    | '-' :: more => (joined? rest more).map (text.take n ++ ·)
    | _ => none

/-- The name that some programs put before an identifier, in either case. -/
def scheme : List Char := "urn:uuid:".toList

/-- An identifier without the braces around it. -/
def unbraced? (text : List Char) : Option (List Char) := do
  dropSuffix? ['\x7d'] (← dropPrefix? ['\x7b'] text)

/-- An identifier without the scheme before it. -/
def unschemed? (text : List Char) : Option (List Char) :=
  if (text.take scheme.length).map Char.toLower = scheme then some (text.drop scheme.length)
  else none

/-- What a text holds besides what some programs put around an identifier. -/
structure Wrapped where
  /-- The identifier itself. -/
  inner : List Char
  /-- How many characters stand before it. -/
  offset : Nat
  /-- Whether nothing is around it. -/
  bare : Bool

/-- Takes off the braces or the scheme around an identifier. -/
def Wrapped.of (text : List Char) : Wrapped :=
  match unbraced? text, unschemed? text with
  | some inner, _ => ⟨inner, 1, false⟩
  | none, some inner => ⟨inner, scheme.length, false⟩
  | none, none => ⟨text, 0, true⟩

/-- The digits of an identifier; only a bare one may be without hyphens. -/
def Wrapped.digits? (w : Wrapped) : Option (List Char) :=
  if w.bare ∧ w.inner.length = 32 then some w.inner else joined? groups w.inner

/-! ### Why a text is no identifier -/

/-- Why a text is no identifier. -/
inductive Fault where
  /-- A character that is neither a digit nor a hyphen. -/
  | character (found : Char) (index : Nat)
  /-- The wrong number of digits without a hyphen. -/
  | length (found : Nat)
  /-- The wrong number of groups. -/
  | groupCount (found : Nat)
  /-- The wrong number of digits in a group. -/
  | groupLength (group expected found : Nat)
  deriving DecidableEq, Repr

/-- The message for a fault. -/
def Fault.message : Fault → String
  | .character found index => s!"invalid character: found {backquoted found.toString} at {index}"
  | .length found => s!"invalid length: expected length 32 for simple format, found {found}"
  | .groupCount found => s!"invalid group count: expected 5, found {found}"
  | .groupLength group expected found =>
    s!"invalid group length in group {group}: expected {expected}, found {found}"

/--
The first group whose length is wrong.  The last group is taken to reach to the end of
the whole text, whatever is put around the identifier.
-/
def Wrapped.wrongGroup (w : Wrapped) (size : Nat) : Fault :=
  let lengths := ((w.inner.splitOn '-').map List.length).take 4
  match (lengths.zip groups).zipIdx.find? fun ((found, expected), _) => found != expected with
  | some ((found, expected), group) => .groupLength group expected found
  | none => .groupLength 4 12 (size - 24)

/-- Why a text of a number of characters is no identifier. -/
def Wrapped.fault (w : Wrapped) (size : Nat) : Fault :=
  match w.inner.zipIdx.find? fun (c, _) => c != '-' && (hexValue? c).isNone with
  | some (c, index) => .character c (w.offset + index)
  | none =>
    let hyphens := w.inner.count '-'
    if hyphens = 0 ∧ w.bare then .length size
    else if hyphens ≠ 4 then .groupCount (hyphens + 1)
    else w.wrongGroup size

/-- The identifier that a text spells. -/
def read (text : List Char) : Except Fault Uuid :=
  let w := Wrapped.of text
  match w.digits?.bind hexNumber? with
  | some n => .ok ⟨BitVec.ofNat 128 n⟩
  | none => .error (w.fault text.length)

/-- The identifier that a text spells, or the message that says why there is none. -/
def parse (text : String) : Except String Uuid :=
  (read text.toList).mapError fun fault => "UUID parsing failed: " ++ fault.message

end Uuid

end Draftsman
