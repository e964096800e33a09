/-
How arrays and objects are put together from their members.

Whoever reads the members decides what they have to be; the functions here only
know the brackets, braces, commas and colons between them.  They are written so
that the members of any kind are read by the same rules, and so that a member
nobody wants can be passed over.
-/
import Draftsman.Json.Token

namespace Draftsman.Json

/--
Looks for the next item of an array.  The answer is the text that begins with the
item, or none when the closing bracket stands there.
-/
def nextItem? (first : Bool) (text : List Char) : Except Fault (Option (List Char)) :=
  match skipSpace text with
  | [] => .error .endInArray
  | ']' :: _ => .ok none
  | c :: rest =>
    if first then .ok (some (c :: rest))
    else if c = ',' then
      match skipSpace rest with
      | [] => .error .endInValue
      | ']' :: _ => .error .trailingComma
      | rest => .ok (some rest)
    else .error .commaOrBracketExpected

/-- Reads the closing bracket of an array of which no further item is wanted. -/
def closeArray (text : List Char) : Except Fault (List Char) :=
  match skipSpace text with
  | [] => .error .endInArray
  | ']' :: rest => .ok rest
  | ',' :: rest =>
    match skipSpace rest with
    | ']' :: _ => .error .trailingComma
    | _ => .error .trailingCharacters
  | _ => .error .trailingCharacters

/--
Looks for the next entry of an object.  The answer is the text after the opening
quote of its key, or none when the closing brace stands there.
-/
def nextKey? (first : Bool) (text : List Char) : Except Fault (Option (List Char)) :=
  match skipSpace text with
  | [] => .error .endInObject
  | '\x7d' :: _ => .ok none
  | c :: rest =>
    if first then
      if c = '"' then .ok (some rest) else .error .keyNotString
    else if c = ',' then
      match skipSpace rest with
      | [] => .error .endInValue
      | '"' :: rest => .ok (some rest)
      | '\x7d' :: _ => .error .trailingComma
      | _ => .error .keyNotString
    else .error .commaOrBraceExpected

/-- Reads the colon behind a key. -/
def readColon (text : List Char) : Except Fault (List Char) :=
  match skipSpace text with
  | [] => .error .endInObject
  | ':' :: rest => .ok rest
  | _ => .error .colonExpected

/--
Reads the items of an array up to and with its closing bracket, each with what has
become of those before it; `fuel` bounds how many.
-/
def readItems {σ : Type} (item : σ → Reader σ) (first : Bool) (state : σ) : (fuel : Nat) → Reader σ
  | 0, _ => .error .endInArray
  | fuel + 1, text => do
    match ← nextItem? first text with
    | none => .ok (state, (skipSpace text).tail)
    | some text => do
      let (state, text) ← item state text
      readItems item false state fuel text

/--
Reads the entries of an object up to and with its closing brace.  `entry` gets what
has become of the entries before, the key, and the text behind the key.
-/
def readEntries {σ : Type} (entry : σ → String → Reader σ) (first : Bool) (state : σ) :
    (fuel : Nat) → Reader σ
  | 0, _ => .error .endInObject
  | fuel + 1, text => do
    match ← nextKey? first text with
    | none => .ok (state, (skipSpace text).tail)
    | some text => do
      let (key, text) ← readString text
      let (state, text) ← entry state key text
      readEntries entry false state fuel text

/-! ### Passing over a value

The value of an entry that nobody asked for is passed over without keeping its
parts, so it may be nested as deeply as it likes and hold numbers of any size.
-/

/-- An array or object that is still open. -/
inductive Open where
  | array
  | object
  deriving DecidableEq

/-- Passes over the key and the colon of an entry. -/
def skipKey (text : List Char) : Except Fault (List Char) :=
  match skipSpace text with
  | [] => .error .endInObject
  | '"' :: rest => do
    let rest ← skipString rest
    readColon rest
  | _ => .error .keyNotString

/-- What is expected next while a value is passed over. -/
inductive Expecting where
  /-- A value. -/
  | value
  /-- A comma or the end of the innermost open array or object, behind a value. -/
  | more
  /-- The first value of an array or object that has just been opened, or its end. -/
  | first
  deriving DecidableEq

/-- The character that closes an array or object. -/
def Open.closer : Open → Char
  | .array => ']'
  | .object => '\x7d'

/--
Passes over a value.  `stack` holds the arrays and objects that are open, the
innermost first; `fuel` bounds the number of steps.
-/
def skipValue (stack : List Open) (expecting : Expecting) : (fuel : Nat) → List Char →
    Except Fault (List Char)
  | 0, _ => .error .endInValue
  | fuel + 1, text =>
    match expecting, stack with
    | .value, _ =>
      match skipSpace text with
      | [] => .error .endInValue
      | 'n' :: rest => readWord "ull".toList rest >>= skipValue stack .more fuel
      | 't' :: rest => readWord "rue".toList rest >>= skipValue stack .more fuel
      | 'f' :: rest => readWord "alse".toList rest >>= skipValue stack .more fuel
      | '-' :: rest => skipUnsigned rest >>= skipValue stack .more fuel
      | '"' :: rest => skipString rest >>= skipValue stack .more fuel
      | '[' :: rest => skipValue (.array :: stack) .first fuel rest
      | '\x7b' :: rest => skipValue (.object :: stack) .first fuel rest
      | c :: rest =>
        if isDigit c then skipUnsigned (c :: rest) >>= skipValue stack .more fuel
        else .error .valueExpected
    | _, [] => .ok text
    | .more, innermost :: outer =>
      match skipSpace text with
      | [] => .error (if innermost = .array then .endInArray else .endInObject)
      | c :: rest =>
        if c = innermost.closer then skipValue outer .more fuel rest
        else if c = ',' then
          match innermost with
          | .array => skipValue stack .value fuel rest
          | .object => skipKey rest >>= skipValue stack .value fuel
        else .error (if innermost = .array then .commaOrBracketExpected else .commaOrBraceExpected)
    | .first, innermost :: outer =>
      match skipSpace text with
      | [] => .error (if innermost = .array then .endInArray else .endInObject)
      | c :: rest =>
        if c = innermost.closer then skipValue outer .more fuel rest
        else
          match innermost with
          | .array => skipValue stack .value fuel (c :: rest)
          | .object => skipKey (c :: rest) >>= skipValue stack .value fuel

/-- Passes over the value at the beginning of a text. -/
def skip (text : List Char) : Except Fault (List Char) :=
  skipValue [] .value (2 * text.length + 2) text

/-- The fault of a text that has something other than spaces behind its value. -/
def checkEnd (text : List Char) : Except Fault Unit :=
  if (skipSpace text).isEmpty then .ok () else .error .trailingCharacters

end Draftsman.Json
