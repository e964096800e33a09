/-
The pieces a JSON text is made of: blanks, words, strings and numbers.

Every reader takes the rest of the text and returns what it read together with the
rest after it, or the fault at which it stopped.
-/
import Draftsman.Json.Fault

namespace Draftsman.Json

open Draftsman.Number

/-- A reader of the rest of a text. -/
abbrev Reader (α : Type) := List Char → Except Fault (α × List Char)

/-- The four characters that may stand between the pieces of a text. -/
def isSpace (c : Char) : Bool := c == ' ' || c == '\n' || c == '\t' || c == '\r'

/-- The text after its leading spaces. -/
def skipSpace (text : List Char) : List Char := text.dropWhile isSpace

/-- Reads the given characters, the rest of a word whose first one has been recognised. -/
def readWord : List Char → List Char → Except Fault (List Char)
  | [], text => .ok text
  | _ :: _, [] => .error .endInValue
  | w :: word, c :: text => if w = c then readWord word text else .error .wordExpected

/-! ### Strings -/

/-- The value of a hexadecimal digit. -/
def hexDigit? (c : Char) : Option Nat :=
  if '0' ≤ c ∧ c ≤ '9' then some (c.toNat - '0'.toNat)
  else if 'a' ≤ c ∧ c ≤ 'f' then some (c.toNat - 'a'.toNat + 10)
  else if 'A' ≤ c ∧ c ≤ 'F' then some (c.toNat - 'A'.toNat + 10)
  else none

/-- Reads the four hexadecimal digits of an escape; four bytes have to be left for them. -/
def readUnit : Reader Nat
  | a :: b :: c :: d :: text =>
    match hexDigit? a, hexDigit? b, hexDigit? c, hexDigit? d with
    | some a, some b, some c, some d => .ok (((a * 16 + b) * 16 + c) * 16 + d, text)
    | _, _, _, _ => .error .invalidEscape
  | text =>
    if (String.ofList text).utf8ByteSize < 4 then .error .endInString else .error .invalidEscape

/-- Whether a unit is the first of a pair of surrogates. -/
def isLeading (unit : Nat) : Bool := 0xD800 ≤ unit && unit ≤ 0xDBFF

/-- Whether a unit is the second of a pair of surrogates. -/
def isTrailing (unit : Nat) : Bool := 0xDC00 ≤ unit && unit ≤ 0xDFFF

/-- Reads the escape of the second of a pair of surrogates, and joins the pair. -/
def readTrailing (leading : Nat) : Reader Char
  | [] => .error .endInString
  | ['\\'] => .error .endInString
  | '\\' :: 'u' :: text => do
    let (trailing, text) ← readUnit text
    if isTrailing trailing then
      .ok (Char.ofNat (0x10000 + (leading - 0xD800) * 0x400 + (trailing - 0xDC00)), text)
    else .error .loneSurrogate
  | _ => .error .unpairedEscape

/-- Reads the digits of an escaped character. -/
def readCodePoint : Reader Char := fun text => do
  let (unit, text) ← readUnit text
  if isTrailing unit then .error .loneSurrogate
  else if isLeading unit then readTrailing unit text
  else .ok (Char.ofNat unit, text)

/-- The character that a backslash and a letter stand for. -/
def shortEscape? : Char → Option Char
  | '"' => some '"'
  | '\\' => some '\\'
  | '/' => some '/'
  | 'b' => some '\x08'
  | 'f' => some '\x0c'
  | 'n' => some '\n'
  | 'r' => some '\r'
  | 't' => some '\t'
  | _ => none

/-- Reads an escaped character, after its backslash. -/
def readEscape : Reader Char
  | [] => .error .endInString
  | 'u' :: text => readCodePoint text
  | c :: text =>
    match shortEscape? c with
    | some escaped => .ok (escaped, text)
    | none => .error .invalidEscape

/-- Passes over an escaped character, after its backslash, whatever its digits mean. -/
def skipEscape : List Char → Except Fault (List Char)
  | [] => .error .endInString
  | 'u' :: text => (readUnit text).map Prod.snd
  | c :: text =>
    match shortEscape? c with
    | some _ => .ok text
    | none => .error .invalidEscape

/-- Whether a character may not stand in a string as itself. -/
def isControl (c : Char) : Bool := c.toNat < 0x20

/-- Reads the characters of a string up to its closing quote; `fuel` bounds how many. -/
def readChars : (fuel : Nat) → Reader (List Char)
  | 0, _ => .error .endInString
  | _ + 1, [] => .error .endInString
  | fuel + 1, c :: text =>
    if c = '"' then .ok ([], text)
    else if c = '\\' then do
      let (escaped, text) ← readEscape text
      let (chars, text) ← readChars fuel text
      .ok (escaped :: chars, text)
    else if isControl c then .error .controlCharacter
    else do
      let (chars, text) ← readChars fuel text
      .ok (c :: chars, text)

/-- Reads a string, after its opening quote. -/
def readString : Reader String := fun text => do
  let (chars, text) ← readChars (text.length + 1) text
  .ok (String.ofList chars, text)

/-- Passes over the characters of a string up to its closing quote. -/
def skipChars : (fuel : Nat) → List Char → Except Fault (List Char)
  | 0, _ => .error .endInString
  | _ + 1, [] => .error .endInString
  | fuel + 1, c :: text =>
    if c = '"' then .ok text
    else if c = '\\' then skipEscape text >>= skipChars fuel
    else if isControl c then .error .controlCharacter
    else skipChars fuel text

/-- Passes over a string, after its opening quote. -/
def skipString (text : List Char) : Except Fault (List Char) := skipChars (text.length + 1) text

/-! ### Numbers -/

/-- The digits at the beginning of a text, and the rest. -/
def spanDigits (text : List Char) : List Char × List Char :=
  (text.takeWhile isDigit, text.dropWhile isDigit)

/-- A decimal whose value is checked to be a number of 64 bits. -/
def decimalInRange (negative : Bool) (units : Nat) (exponent : Int) : Except Fault Number :=
  let d : Decimal := ⟨negative, units, exponent⟩
  match floatOfDecimal? d with
  | some _ => .ok (.decimal d)
  | none => .error .numberOutOfRange

/-- The greatest exponent that is counted. -/
def maxExponent : Int := 0x7FFFFFFF

/-- An exponent within the counted ones. -/
def clampExponent (e : Int) : Int := max (-maxExponent - 1) (min maxExponent e)

/-- The number made of a significand, a power of ten and the digits of a written exponent. -/
def withExponent (negative : Bool) (units : Nat) (shift : Int) (down : Bool) (ds : List Char) :
    Except Fault Number :=
  let written := ds.foldl (fun n d => n * 10 + digitValue d) 0
  if (written : Int) ≤ maxExponent then
    let exponent := if down then shift - written else shift + written
    decimalInRange negative units (clampExponent exponent)
  else if units ≠ 0 ∧ !down then .error .numberOutOfRange
  else .ok (.decimal ⟨negative, 0, 0⟩)

/-- Reads an exponent, after its letter. -/
def readExponent (negative : Bool) (units : Nat) (shift : Int) : Reader Number := fun text =>
  let (down, text) :=
    match text with
    | '+' :: text => (false, text)
    | '-' :: text => (true, text)
    | _ => (false, text)
  match spanDigits text with
  | ([], []) => .error .endInValue
  | ([], _ :: _) => .error .invalidNumber
  | (ds, text) => do
    let number ← withExponent negative units shift down ds
    .ok (number, text)

/-- Reads an exponent if one follows. -/
def readExponent? (negative : Bool) (units : Nat) (shift : Int) : Reader Number
  | 'e' :: text => readExponent negative units shift text
  | 'E' :: text => readExponent negative units shift text
  | text => do
    let number ← decimalInRange negative units shift
    .ok (number, text)

/-- Reads the digits behind a point; those that no longer fit are dropped. -/
def readFraction (negative : Bool) (units : Nat) (shift : Int) : Reader Number := fun text =>
  match spanDigits text with
  | ([], []) => .error .endInValue
  | ([], _ :: _) => .error .invalidNumber
  | (ds, text) =>
    let (units, dropped) := absorb units ds
    readExponent? negative units (shift - (ds.length - dropped.length : Nat)) text

/-- A number without point and exponent: whole if it fits in 64 bits, and not `-0`. -/
def wholeNumber (negative : Bool) (units : Nat) : Number :=
  if negative then
    if units = 0 ∨ 0x8000000000000000 < units then .decimal ⟨true, units, 0⟩ else .whole (-units)
  else .whole units

/-- Reads the rest of a number whose whole digits are known. -/
def readAfterWhole (negative : Bool) (ds : List Char) : Reader Number := fun text =>
  let (units, dropped) := absorb 0 ds
  let shift : Int := dropped.length
  match text with
  | '.' :: rest => readFraction negative units shift rest
  | 'e' :: rest => readExponent negative units shift rest
  | 'E' :: rest => readExponent negative units shift rest
  | text =>
    if dropped.isEmpty then .ok (wholeNumber negative units, text)
    else do
      let number ← decimalInRange negative units shift
      .ok (number, text)

/-- Reads a number, after its sign; a leading zero stands alone. -/
def readUnsigned (negative : Bool) : Reader Number := fun text =>
  match spanDigits text with
  | ([], []) => .error .endInValue
  | ([], _ :: _) => .error .invalidNumber
  | ('0' :: _ :: _, _) => .error .invalidNumber
  | (ds, text) => readAfterWhole negative ds text

/-- Passes over an exponent, after its letter. -/
def skipExponent (text : List Char) : Except Fault (List Char) :=
  let text :=
    match text with
    | '+' :: text => text
    | '-' :: text => text
    | _ => text
  match spanDigits text with
  | ([], _) => .error .invalidNumber
  | (_, text) => .ok text

/-- Passes over an exponent if one follows. -/
def skipExponent? : List Char → Except Fault (List Char)
  | 'e' :: text => skipExponent text
  | 'E' :: text => skipExponent text
  | text => .ok text

/-- Passes over a number, after its sign, however great it is. -/
def skipUnsigned (text : List Char) : Except Fault (List Char) :=
  match spanDigits text with
  | ([], _) => .error .invalidNumber
  | ('0' :: _ :: _, _) => .error .invalidNumber
  | (_, '.' :: text) =>
    match spanDigits text with
    | ([], _) => .error .invalidNumber
    | (_, text) => skipExponent? text
  | (_, text) => skipExponent? text

end Draftsman.Json
