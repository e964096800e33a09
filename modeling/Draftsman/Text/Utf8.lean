/-
Bytes read as UTF-8, whatever they are.

Where the bytes are no UTF-8, the replacement character stands for them: one for
every longest beginning of a character that breaks off, and one for every byte
that begins no character.
-/
namespace Draftsman.Text

/-- The character that stands for bytes that are none. -/
def replacement : Char := '\uFFFD'

/-- What the first byte of a character of several bytes says about the rest of it. -/
structure Lead where
  /-- How many bytes follow. -/
  following : Nat
  /-- The bits of the code point in the first byte. -/
  bits : Nat
  /-- The least and greatest second byte. -/
  low : Nat
  high : Nat

/-- The meaning of a first byte, if a character of several bytes begins with it. -/
def lead? (byte : Nat) : Option Lead :=
  if 0xC2 ≤ byte ∧ byte ≤ 0xDF then some ⟨1, byte - 0xC0, 0x80, 0xBF⟩
  else if byte = 0xE0 then some ⟨2, 0, 0xA0, 0xBF⟩
  else if byte = 0xED then some ⟨2, byte - 0xE0, 0x80, 0x9F⟩
  else if 0xE1 ≤ byte ∧ byte ≤ 0xEF then some ⟨2, byte - 0xE0, 0x80, 0xBF⟩
  else if byte = 0xF0 then some ⟨3, 0, 0x90, 0xBF⟩
  else if 0xF1 ≤ byte ∧ byte ≤ 0xF3 then some ⟨3, byte - 0xF0, 0x80, 0xBF⟩
  else if byte = 0xF4 then some ⟨3, byte - 0xF0, 0x80, 0x8F⟩
  else none

/-- What a byte tells that is the first of a character: the character, or what is known of it. -/
def firstByte (byte : Nat) : List Char × Option Lead :=
  if byte < 0x80 then ([Char.ofNat byte], none)
  else
    match lead? byte with
    | some lead => ([], some lead)
    | none => ([replacement], none)

/--
The characters of bytes.  `pending` is what is known of a character of which some
bytes have been read: how many are missing and what the next one may be.
-/
def decodeBytes : (pending : Option Lead) → List Nat → List Char
  | none, [] => []
  | some _, [] => [replacement]
  | none, byte :: rest =>
    let (chars, pending) := firstByte byte
    chars ++ decodeBytes pending rest
  | some lead, byte :: rest =>
    if lead.low ≤ byte ∧ byte ≤ lead.high then
      let bits := lead.bits * 64 + byte % 64
      if lead.following ≤ 1 then Char.ofNat bits :: decodeBytes none rest
      else decodeBytes (some ⟨lead.following - 1, bits, 0x80, 0xBF⟩) rest
    else
      let (chars, pending) := firstByte byte
      replacement :: chars ++ decodeBytes pending rest

/-- The text that bytes stand for. -/
def decodeUtf8 (bytes : List Nat) : String := String.ofList (decodeBytes none bytes)

end Draftsman.Text
