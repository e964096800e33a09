/-
Characters spelled out by their bytes.

Where a character may not stand as it is, each of its bytes is written as a percent
sign and two hexadecimal digits.  Which characters may stand depends on the place.
-/
import Draftsman.Text.Utf8

namespace Draftsman.Web

open Draftsman.Text

/-- A hexadecimal digit. -/
def hexDigit (n : Nat) : Char := ((Nat.toDigits 16 n).headD '0').toUpper

/-- The value of a hexadecimal digit in either case. -/
def hexDigitValue? (c : Char) : Option Nat :=
  let small := c.toLower
  if c.isDigit then some (c.toNat - '0'.toNat)
  else if 'a' ≤ small ∧ small ≤ 'f' then some (small.toNat - 'a'.toNat + 10)
  else none

/-- The bytes of a text. -/
def bytesOf (text : List Char) : List Nat := (String.ofList text).toUTF8.toList.map UInt8.toNat

/-- A byte spelled out. -/
def spelledByte (byte : Nat) : List Char := ['%', hexDigit (byte / 16), hexDigit (byte % 16)]

/-- A text in which only the given characters stand as they are. -/
def encode (stands : Char → Bool) (text : List Char) : List Char :=
  text.flatMap fun c => if stands c then [c] else (bytesOf [c]).flatMap spelledByte

/-- The bytes of a text in which some are spelled out. -/
def decodedBytes : List Nat → List Nat
  | [] => []
  | byte :: high :: low :: rest =>
    if byte = '%'.toNat then
      match hexDigitValue? (Char.ofNat high), hexDigitValue? (Char.ofNat low) with
      | some h, some l => (h * 16 + l) :: decodedBytes rest
      | _, _ => byte :: decodedBytes (high :: low :: rest)
    else byte :: decodedBytes (high :: low :: rest)
  | byte :: rest => byte :: decodedBytes rest

/-- A text with the characters that are spelled out in it; some bytes may be no character. -/
def decode (text : List Char) : List Char := (decodeUtf8 (decodedBytes (bytesOf text))).toList

/-- Whether the bytes that are spelled out in a text are characters. -/
def isDecodable (text : List Char) : Bool :=
  (ByteArray.mk ((decodedBytes (bytesOf text)).map UInt8.ofNat).toArray).validateUTF8

/-! ### What may stand where -/

/-- Whether a character can be seen and is below 0x80, or is a blank. -/
def isPrintable (c : Char) : Bool := 0x20 ≤ c.toNat && c.toNat < 0x7F

/-- Whether a character may stand behind a number sign. -/
def standsInFragment (c : Char) : Bool := isPrintable c && !" \"<>`".toList.contains c

/-- Whether a character may stand in a step of a path. -/
def standsInPath (c : Char) : Bool :=
  standsInFragment c && c != '#' && c != '?' && c != '\x7b' && c != '\x7d'

/-- Whether a character may stand in a query. -/
def standsInQuery (c : Char) : Bool := isPrintable c && !" \"#<>".toList.contains c

/-- Whether a character may stand in the name or the password of a user. -/
def standsInCredentials (c : Char) : Bool := standsInPath c && !"/:;=@[\\]^|".toList.contains c

end Draftsman.Web
