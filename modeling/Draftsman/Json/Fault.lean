/-
Why a text is not the JSON that was asked for.

There are two families of faults.  Those of form are noticed where the reading of
the text stops; those of content are noticed when a value, well formed so far, is
not of the kind that its place asks for.  A reading reports the first fault it
meets, of either family.
-/
import Draftsman.Json.Number
import Draftsman.Text.Quoted

namespace Draftsman.Json

open Draftsman.Text (backquoted)

/-- What stood where something else was asked for. -/
inductive Found where
  | null
  | boolean (value : Bool)
  | number (value : Number)
  | string (value : String)
  | sequence
  | map
  deriving DecidableEq, Repr

/-- Why a text is not the JSON that was asked for. -/
inductive Fault where
  /-- The text ends where a value should stand. -/
  | endInValue
  /-- The text ends inside an array. -/
  | endInArray
  /-- The text ends inside an object. -/
  | endInObject
  /-- The text ends inside a string. -/
  | endInString
  /-- No value begins with this character. -/
  | valueExpected
  /-- A word begins as `null`, `true` or `false` does and goes on otherwise. -/
  | wordExpected
  | colonExpected
  | commaOrBracketExpected
  | commaOrBraceExpected
  /-- An entry of an object does not begin with a string. -/
  | keyNotString
  /-- A comma stands before a closing bracket or brace. -/
  | trailingComma
  /-- Something stands behind the end. -/
  | trailingCharacters
  | invalidNumber
  | numberOutOfRange
  | invalidEscape
  /-- A leading surrogate is followed by something other than an escape. -/
  | unpairedEscape
  /-- A surrogate has no partner. -/
  | loneSurrogate
  | controlCharacter
  /-- Too many arrays and objects stand inside each other. -/
  | tooDeep
  | missingField (key : String)
  | duplicateField (key : String)
  /-- A name that is none of the known ones. -/
  | unknownName (given : String) (known : List String)
  /-- A value of the wrong kind. -/
  | wrongKind (found : Found) (wanted : String)
  /-- A value of the right kind, but not one that is allowed. -/
  | wrongValue (found : Found) (wanted : String)
  /-- A sequence that is too short or too long. -/
  | wrongLength (length : Nat) (wanted : String)
  /-- A text that does not say what its place asks for. -/
  | unreadable (reason : String)
  deriving DecidableEq, Repr

/-- A number as a message names it; of a decimal, the number of 64 bits that it is read as. -/
def Number.described (n : Number) : String :=
  match n with
  | .whole _ => s!"integer `{String.ofList n.text}`"
  | .decimal d =>
    let nearest := ((floatOfDecimal? d).bind Number.ofFloat?).getD n
    s!"floating point `{String.ofList nearest.text}`"

/-- What was found, as a message names it. -/
def Found.described : Found → String
  | .null => "null"
  | .boolean value => s!"boolean `{value}`"
  | .number value => value.described
  | .string value => s!"string \"{value}\""
  | .sequence => "sequence"
  | .map => "map"

/-- The known names, as a message lists them. -/
def namesDescribed : List String → String
  | [] => "there are no variants"
  | [a] => s!"expected {backquoted a}"
  | [a, b] => s!"expected {backquoted a} or {backquoted b}"
  | names => "expected one of " ++ ", ".intercalate (names.map backquoted)

/-- The message for a fault. -/
def Fault.message : Fault → String
  | .endInValue => "EOF while parsing a value"
  | .endInArray => "EOF while parsing a list"
  | .endInObject => "EOF while parsing an object"
  | .endInString => "EOF while parsing a string"
  | .valueExpected => "expected value"
  | .wordExpected => "expected ident"
  | .colonExpected => "expected `:`"
  | .commaOrBracketExpected => "expected `,` or `]`"
  | .commaOrBraceExpected => "expected `,` or `\x7d`"
  | .keyNotString => "key must be a string"
  | .trailingComma => "trailing comma"
  | .trailingCharacters => "trailing characters"
  | .invalidNumber => "invalid number"
  | .numberOutOfRange => "number out of range"
  | .invalidEscape => "invalid escape"
  | .unpairedEscape => "unexpected end of hex escape"
  | .loneSurrogate => "lone leading surrogate in hex escape"
  | .controlCharacter => "control character (\\u0000-\\u001F) found while parsing a string"
  | .tooDeep => "recursion limit exceeded"
  | .missingField key => s!"missing field {backquoted key}"
  | .duplicateField key => s!"duplicate field {backquoted key}"
  | .unknownName given known => s!"unknown variant {backquoted given}, {namesDescribed known}"
  | .wrongKind found wanted => s!"invalid type: {found.described}, expected {wanted}"
  | .wrongValue found wanted => s!"invalid value: {found.described}, expected {wanted}"
  | .wrongLength length wanted => s!"invalid length {length}, expected {wanted}"
  | .unreadable reason => reason

end Draftsman.Json
