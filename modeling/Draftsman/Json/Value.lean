/-
Any JSON value.

The entries of an object that was read stand in the order of their keys, and of
two entries with one key the later counts.  An object that is built to be written
keeps the order in which it was built.
-/
import Draftsman.Json.Structure

namespace Draftsman.Json

/-- A JSON value. -/
inductive Value where
  | null
  | bool (value : Bool)
  | number (value : Number)
  | string (value : String)
  | array (items : List Value)
  | object (entries : List (String × Value))
  deriving Repr

/-- A value as a fault names it. -/
def Value.found : Value → Found
  | .null => .null
  | .bool value => .boolean value
  | .number value => .number value
  | .string value => .string value
  | .array _ => .sequence
  | .object _ => .map

/-- A natural number as a value. -/
def Value.nat (n : Nat) : Value := .number (.whole n)

/-- A number of 64 bits as a value; null if it is not finite. -/
def Value.float (x : Float) : Value :=
  match Number.ofFloat? x with
  | some n => .number n
  | none => .null

/-- A string or null. -/
def Value.string? : Option String → Value
  | some s => .string s
  | none => .null

/-- The value of an entry; null where there is none. -/
def Value.get (key : String) : Value → Value
  | .object entries => (entries.lookup key).getD .null
  | _ => .null

/-- An item of an array; null where there is none. -/
def Value.item (index : Nat) : Value → Value
  | .array items => items.getD index .null
  | _ => .null

/-- The string, if the value is one. -/
def Value.asString? : Value → Option String
  | .string s => some s
  | _ => none

/-- Puts an entry into entries that stand in the order of their keys. -/
def putEntry (key : String) (value : Value) : List (String × Value) → List (String × Value)
  | [] => [(key, value)]
  | (k, v) :: rest =>
    if key < k then (key, value) :: (k, v) :: rest
    else if key = k then (key, value) :: rest
    else (k, v) :: putEntry key value rest

/-- Reads a value whose first character has been found; `levels` bounds how deeply it is nested. -/
def readValue : (levels : Nat) → Reader Value
  | levels, text =>
    match skipSpace text with
    | [] => .error .endInValue
    | 'n' :: rest => do .ok (.null, ← readWord "ull".toList rest)
    | 't' :: rest => do .ok (.bool true, ← readWord "rue".toList rest)
    | 'f' :: rest => do .ok (.bool false, ← readWord "alse".toList rest)
    | '-' :: rest => do
      let (n, rest) ← readUnsigned true rest
      .ok (.number n, rest)
    | '"' :: rest => do
      let (s, rest) ← readString rest
      .ok (.string s, rest)
    | '[' :: rest =>
      match levels with
      | 0 => .error .tooDeep
      | levels + 1 => do
        let item (items : List Value) : Reader (List Value) := fun text => do
          let (value, text) ← readValue levels text
          .ok (value :: items, text)
        let (items, rest) ← readItems item true [] (rest.length + 1) rest
        .ok (.array items.reverse, rest)
    | '\x7b' :: rest =>
      match levels with
      | 0 => .error .tooDeep
      | levels + 1 => do
        let entry (entries : List (String × Value)) (key : String) :
            Reader (List (String × Value)) := fun text => do
          let text ← readColon text
          let (value, text) ← readValue levels text
          .ok (putEntry key value entries, text)
        let (entries, rest) ← readEntries entry true [] (rest.length + 1) rest
        .ok (.object entries, rest)
    | c :: rest =>
      if isDigit c then do
        let (n, rest) ← readUnsigned false (c :: rest)
        .ok (.number n, rest)
      else .error .valueExpected

/-- How many arrays and objects may stand inside each other. -/
def maxLevels : Nat := 127

/-- The value that a text spells. -/
def parse (text : String) : Except Fault Value := do
  let (value, rest) ← readValue maxLevels text.toList
  checkEnd rest
  .ok value

/-! ### Writing -/

/-- A hexadecimal digit. -/
def hexDigit (n : Nat) : Char := (Nat.toDigits 16 n).headD '0'

/-- One character of a string. -/
def charText (c : Char) : List Char :=
  match c with
  | '"' => ['\\', '"']
  | '\\' => ['\\', '\\']
  | '\x08' => ['\\', 'b']
  | '\x0c' => ['\\', 'f']
  | '\n' => ['\\', 'n']
  | '\r' => ['\\', 'r']
  | '\t' => ['\\', 't']
  | _ =>
    if isControl c then ['\\', 'u', '0', '0', hexDigit (c.toNat / 16), hexDigit (c.toNat % 16)]
    else [c]

/-- A string between quotes. -/
def stringText (s : String) : List Char := '"' :: s.toList.flatMap charText ++ ['"']

/-- Texts with a separator between each two of them. -/
def joinText (separator : List Char) : List (List Char) → List Char
  | [] => []
  | [text] => text
  | text :: rest => text ++ separator ++ joinText separator rest

mutual

/-- A value without any spaces. -/
def Value.compact : Value → List Char
  | .null => "null".toList
  | .bool true => "true".toList
  | .bool false => "false".toList
  | .number value => value.text
  | .string value => stringText value
  | .array items => '[' :: joinText [','] (compactItems items) ++ [']']
  | .object entries => '\x7b' :: joinText [','] (compactEntries entries) ++ ['\x7d']

/-- The items of an array, each without any spaces. -/
def compactItems : List Value → List (List Char)
  | [] => []
  | item :: rest => item.compact :: compactItems rest

/-- The entries of an object, each without any spaces. -/
def compactEntries : List (String × Value) → List (List Char)
  | [] => []
  | (key, value) :: rest => (stringText key ++ ':' :: value.compact) :: compactEntries rest

end

/-- A line break and the spaces before what stands `depth` levels deep. -/
def newline (depth : Nat) : List Char := '\n' :: List.replicate (2 * depth) ' '

/-- Members on lines of their own between an opening and a closing character. -/
def block (opener closer : Char) (depth : Nat) (members : List (List Char)) : List Char :=
  if members.isEmpty then [opener, closer]
  else
    opener :: newline (depth + 1) ++ joinText (',' :: newline (depth + 1)) members ++
      newline depth ++ [closer]

mutual

/-- A value with every item and entry on a line of its own. -/
def Value.indented (depth : Nat) : Value → List Char
  | .null => "null".toList
  | .bool true => "true".toList
  | .bool false => "false".toList
  | .number value => value.text
  | .string value => stringText value
  | .array items => block '[' ']' depth (indentedItems (depth + 1) items)
  | .object entries => block '\x7b' '\x7d' depth (indentedEntries (depth + 1) entries)

/-- The items of an array, each over several lines. -/
def indentedItems (depth : Nat) : List Value → List (List Char)
  | [] => []
  | item :: rest => item.indented depth :: indentedItems depth rest

/-- The entries of an object, each over several lines. -/
def indentedEntries (depth : Nat) : List (String × Value) → List (List Char)
  | [] => []
  | (key, value) :: rest =>
    (stringText key ++ ':' :: ' ' :: value.indented depth) :: indentedEntries depth rest

end

/-- A value on one line. -/
def Value.line (value : Value) : String := String.ofList value.compact

/-- A value over several lines. -/
def Value.page (value : Value) : String := String.ofList (value.indented 0)

end Draftsman.Json
