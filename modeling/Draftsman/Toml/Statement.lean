/-
The statements of a TOML document.

A document is a list of statements: headers, which say where the entries below them
belong, and entries, which give a value to a key.  This module reads statements
from a text; what they amount to is for others to say.
-/
import Draftsman.Calendar.Day
import Draftsman.Json.Number

namespace Draftsman.Toml

open Draftsman.Json (isDigit digitValue)

/-- A key, which may have several parts. -/
abbrev Path := List String

/-- A value. -/
inductive Value where
  | string (value : String)
  | integer (value : Int)
  | float (value : Float)
  | boolean (value : Bool)
  /-- A date, a time of day, or both. -/
  | time (text : String)
  | array (items : List Value)
  | table (entries : List (Path × Value))
  deriving Repr

/-- A statement. -/
inductive Statement where
  /-- The entries below belong to a table. -/
  | header (path : Path)
  /-- The entries below belong to a new item of an array of tables. -/
  | itemHeader (path : Path)
  | entry (path : Path) (value : Value)
  deriving Repr

/-- A reader of the rest of a text. -/
abbrev Reader (α : Type) := List Char → Option (α × List Char)

/-! ### Blanks, line ends and remarks -/

/-- Whether a character may stand between the parts of a line. -/
def isSpace (c : Char) : Bool := c == ' ' || c == '\t'

/-- The text after its leading spaces. -/
def skipSpace (text : List Char) : List Char := text.dropWhile isSpace

/-- Whether a character may stand in a remark, or as itself in a string. -/
def isPlain (c : Char) : Bool := c == '\t' || (0x20 ≤ c.toNat && c.toNat != 0x7F)

/-- The text after the end of a line. -/
def lineEnd? : List Char → Option (List Char)
  | '\n' :: rest => some rest
  | '\r' :: '\n' :: rest => some rest
  | _ => none

/-- The text after a remark, if it begins with one. -/
def skipRemark : List Char → List Char
  | '#' :: rest => rest.dropWhile isPlain
  | text => text

/-- The text after spaces, line ends and remarks; `fuel` bounds how many lines. -/
def skipLines : (fuel : Nat) → List Char → List Char
  | 0, text => text
  | fuel + 1, text =>
    let rest := skipRemark (skipSpace text)
    match lineEnd? rest with
    | some next => skipLines fuel next
    | none => rest

/-! ### Strings -/

/-- The value of a hexadecimal digit. -/
def hexDigit? (c : Char) : Option Nat :=
  let small := c.toLower
  if isDigit small then some (digitValue small)
  else if 'a' ≤ small ∧ small ≤ 'f' then some (small.toNat - 'a'.toNat + 10)
  else none

/-- Reads the character with a code point of `count` hexadecimal digits. -/
def readCodePoint (count : Nat) : Reader Char := fun text => do
  let ds := text.take count
  let n ← ds.foldlM (fun n c => (hexDigit? c).map (n * 16 + ·)) 0
  if ds.length = count ∧ n.isValidChar then some (Char.ofNat n, text.drop count) else none

/-- Reads an escaped character, after its backslash. -/
def readEscape : Reader Char
  | 'b' :: rest => some ('\x08', rest)
  | 't' :: rest => some ('\t', rest)
  | 'n' :: rest => some ('\n', rest)
  | 'f' :: rest => some ('\x0c', rest)
  | 'r' :: rest => some ('\r', rest)
  | '"' :: rest => some ('"', rest)
  | '\\' :: rest => some ('\\', rest)
  | 'u' :: rest => readCodePoint 4 rest
  | 'U' :: rest => readCodePoint 8 rest
  | _ => none

/-- Reads a string of one line, after its opening quote. -/
def readBasic : (fuel : Nat) → Reader (List Char)
  | 0, _ => none
  | _ + 1, [] => none
  | fuel + 1, c :: rest =>
    if c = '"' then some ([], rest)
    else if c = '\\' then do
      let (escaped, rest) ← readEscape rest
      let (chars, rest) ← readBasic fuel rest
      some (escaped :: chars, rest)
    else if isPlain c then do
      let (chars, rest) ← readBasic fuel rest
      some (c :: chars, rest)
    else none

/-- Reads a string of one line in which nothing is escaped, after its opening quote. -/
def readLiteral (text : List Char) : Option (List Char × List Char) :=
  match text.dropWhile fun c => isPlain c && c != '\'' with
  | '\'' :: rest => some (text.takeWhile fun c => isPlain c && c != '\'', rest)
  | _ => none

/-- How many times `c` stands at the beginning of a text. -/
def runLength (c : Char) (text : List Char) : Nat := (text.takeWhile (· == c)).length

/-- The text after spaces and line ends. -/
def skipBreaks : List Char → List Char
  | '\n' :: rest => skipBreaks rest
  | '\r' :: '\n' :: rest => skipBreaks rest
  | c :: rest => if isSpace c then skipBreaks rest else c :: rest
  | [] => []

/-- The text after a backslash that ends a line, and the spaces and line ends after it. -/
def continuation? (text : List Char) : Option (List Char) :=
  (lineEnd? (skipSpace text)).map skipBreaks

/--
Reads a string of several lines, after its three opening quotes.  The last three of
a run of quotes close it; up to two before them belong to it.
-/
def readLong (quote : Char) : (fuel : Nat) → Reader (List Char)
  | 0, _ => none
  | _ + 1, [] => none
  | fuel + 1, c :: rest =>
    if c = quote then
      let run := runLength quote (c :: rest)
      if run < 3 then do
        let (chars, rest) ← readLong quote fuel ((c :: rest).drop run)
        some (List.replicate run quote ++ chars, rest)
      else
        let own := min (run - 3) 2
        some (List.replicate own quote, (c :: rest).drop (own + 3))
    else
      match lineEnd? (c :: rest) with
      | some next => do
        let (chars, rest) ← readLong quote fuel next
        some ('\n' :: chars, rest)
      | none =>
        if c = '\\' ∧ quote = '"' then
          match continuation? rest with
          | some next => readLong quote fuel next
          | none => do
            let (escaped, rest) ← readEscape rest
            let (chars, rest) ← readLong quote fuel rest
            some (escaped :: chars, rest)
        else if isPlain c then do
          let (chars, rest) ← readLong quote fuel rest
          some (c :: chars, rest)
        else none

/-- The text after a line end that follows the opening quotes of a string. -/
def skipFirstEnd (text : List Char) : List Char := (lineEnd? text).getD text

/-- Reads a string of any kind. -/
def readString : Reader String
  | '"' :: '"' :: '"' :: rest => do
    let (chars, rest) ← readLong '"' (rest.length + 1) (skipFirstEnd rest)
    some (String.ofList chars, rest)
  | '\'' :: '\'' :: '\'' :: rest => do
    let (chars, rest) ← readLong '\'' (rest.length + 1) (skipFirstEnd rest)
    some (String.ofList chars, rest)
  | '"' :: rest => do
    let (chars, rest) ← readBasic (rest.length + 1) rest
    some (String.ofList chars, rest)
  | '\'' :: rest => do
    let (chars, rest) ← readLiteral rest
    some (String.ofList chars, rest)
  | _ => none

/-! ### Keys -/

/-- Whether a character may stand in a key without quotes. -/
def isBare (c : Char) : Bool := c.isAlphanum || c == '_' || c == '-'

/-- Reads one part of a key. -/
def readKeyPart : Reader String := fun text =>
  let bare := text.takeWhile isBare
  if !bare.isEmpty then some (String.ofList bare, text.dropWhile isBare)
  else
    match text with
    | '"' :: rest => do
      let (chars, rest) ← readBasic (rest.length + 1) rest
      some (String.ofList chars, rest)
    | '\'' :: rest => do
      let (chars, rest) ← readLiteral rest
      some (String.ofList chars, rest)
    | _ => none

/-- Reads the parts of a key and the spaces around them; `fuel` bounds how many there are. -/
def readParts : (fuel : Nat) → Reader Path
  | 0, _ => none
  | fuel + 1, text => do
    let (part, rest) ← readKeyPart (skipSpace text)
    match skipSpace rest with
    | '.' :: rest => do
      let (parts, rest) ← readParts fuel rest
      some (part :: parts, rest)
    | rest => some ([part], rest)

/-- How many parts a key may have, and how many arrays and tables may stand inside each other. -/
def maxLevels : Nat := 79

/-- Reads a key and the spaces around it. -/
def readPath : Reader Path := readParts maxLevels

/-! ### Numbers and times -/

/-- Digits that may have an underscore between each two of them. -/
def readDigits (isOne : Char → Bool) : List Char → List Char × List Char
  | c :: rest =>
    if isOne c then
      let (ds, rest) := readDigits isOne rest
      (c :: ds, rest)
    else
      match c, rest with
      | '_', d :: _ =>
        if isOne d then readDigits isOne rest else ([], c :: rest)
      | _, _ => ([], c :: rest)
  | [] => ([], [])

/-- Reads at least one digit. -/
def readSomeDigits (isOne : Char → Bool) (text : List Char) : Option (List Char × List Char) :=
  match text with
  | c :: _ => if isOne c then some (readDigits isOne text) else none
  | [] => none

/-- The number that digits of a base stand for. -/
def numberIn (base : Nat) (ds : List Char) : Nat :=
  ds.foldl (fun n d => n * base + (hexDigit? d).getD 0) 0

/-- Reads a whole number in decimal digits, after its sign; a leading zero stands alone. -/
def readWhole (text : List Char) : Option (List Char × List Char) :=
  match text with
  | '0' :: rest => some (['0'], rest)
  | _ => readSomeDigits isDigit text

/-- A whole number, if it has 64 bits. -/
def integer? (value : Int) : Option Value :=
  if -0x8000000000000000 ≤ value ∧ value < 0x8000000000000000 then some (.integer value) else none

/-- Reads the digits of a whole number in another base. -/
def readInBase (base : Nat) (isOne : Char → Bool) : Reader Value := fun text => do
  let (ds, rest) ← readSomeDigits isOne text
  some (← integer? (numberIn base ds), rest)

/-- Reads a sign; whether there is one, and whether it is a minus. -/
def readSign : List Char → (Bool × Bool) × List Char
  | '+' :: rest => ((true, false), rest)
  | '-' :: rest => ((true, true), rest)
  | text => ((false, false), text)

/-- The digits behind a point, if there is one. -/
def readFraction : Reader (Option (List Char))
  | '.' :: rest => (readSomeDigits isDigit rest).map fun (ds, rest) => (some ds, rest)
  | text => some (none, text)

/-- Reads an exponent behind its letter. -/
def readExponentDigits : Reader (Option Int) := fun text => do
  let ((_, negative), rest) := readSign text
  let (ds, rest) ← readSomeDigits isDigit rest
  let n : Int := numberIn 10 ds
  some (some (if negative then -n else n), rest)

/-- The exponent of a number, if there is one. -/
def readExponent : Reader (Option Int)
  | 'e' :: rest => readExponentDigits rest
  | 'E' :: rest => readExponentDigits rest
  | text => some (none, text)

/-- The greatest exponent that makes a difference to a number of 64 bits. -/
def exponentLimit : Int := 100000

/-- The number of 64 bits that is nearest to `units * 10 ^ exponent`. -/
def nearest (negative : Bool) (units : Nat) (exponent : Int) : Float :=
  let e := max (-exponentLimit) (min exponentLimit exponent)
  let x := Float.ofScientific units (e < 0) e.natAbs
  if negative then -x else x

/-- Reads a number with a fraction, an exponent or both. -/
def readFloat : Reader Value := fun text => do
  let ((_, negative), rest) := readSign text
  let (whole, rest) ← readWhole rest
  let (fraction, rest) ← readFraction rest
  let (exponent, rest) ← readExponent rest
  if fraction.isNone ∧ exponent.isNone then none
  else
    let behind := fraction.getD []
    let x := nearest negative (numberIn 10 (whole ++ behind)) (exponent.getD 0 - behind.length)
    if x.isInf && 0 < x then none else some (.float x, rest)

/-- Reads a whole number. -/
def readInteger : Reader Value := fun text =>
  match text with
  | '0' :: 'x' :: rest => readInBase 16 (fun c => (hexDigit? c).isSome) rest
  | '0' :: 'o' :: rest => readInBase 8 (fun c => '0' ≤ c && c ≤ '7') rest
  | '0' :: 'b' :: rest => readInBase 2 (fun c => c == '0' || c == '1') rest
  | _ => do
    let ((_, negative), rest) := readSign text
    let (ds, rest) ← readWhole rest
    let n : Int := numberIn 10 ds
    some (← integer? (if negative then -n else n), rest)

/-- The text after a given word. -/
def afterWord? (word : String) (text : List Char) : Option (List Char) :=
  if text.take word.length = word.toList then some (text.drop word.length) else none

/-- Reads one of the numbers that have names, after its sign. -/
def readNamed (negative : Bool) : Reader Value := fun text =>
  let signed (x : Float) : Value := .float (if negative then -x else x)
  match afterWord? "inf" text with
  | some rest => some (signed (1 / 0), rest)
  | none => (afterWord? "nan" text).map fun rest => (signed (0 / 0), rest)

/-! ### Dates and times -/

/-- Reads a number of exactly `count` digits that lies between two others. -/
def readPart (count low high : Nat) : Reader Nat := fun text =>
  let ds := text.take count
  let n := numberIn 10 ds
  if ds.length = count ∧ ds.all isDigit ∧ low ≤ n ∧ n ≤ high then some (n, text.drop count)
  else none

/-- The text after a character, if it begins with it. -/
def after? (c : Char) : List Char → Option (List Char)
  | x :: rest => if x = c then some rest else none
  | [] => none

/-- The text after a day of the calendar. -/
def skipDate (text : List Char) : Option (List Char) := do
  let (year, text) ← readPart 4 0 9999 text
  let (month, text) ← readPart 2 1 12 (← after? '-' text)
  let (day, text) ← readPart 2 1 31 (← after? '-' text)
  if Day.exists ⟨year, month, day⟩ then some text else none

/-- The text after a time of day, whose seconds have to be given. -/
def skipClock (text : List Char) : Option (List Char) := do
  let (_, text) ← readPart 2 0 23 text
  let (_, text) ← readPart 2 0 59 (← after? ':' text)
  let (_, text) ← readPart 2 0 60 (← after? ':' text)
  match text with
  | '.' :: d :: rest => if isDigit d then some (rest.dropWhile isDigit) else some text
  | _ => some text

/-- The text after an offset from Greenwich, if there is one. -/
def skipOffset : List Char → Option (List Char)
  | 'Z' :: rest => some rest
  | 'z' :: rest => some rest
  | c :: rest =>
    if c = '+' ∨ c = '-' then do
      let (_, rest) ← readPart 2 0 23 rest
      let (_, rest) ← readPart 2 0 59 (← after? ':' rest)
      some rest
    else some (c :: rest)
  | [] => some []

/-- The text after a time of day that is set off from the day before it. -/
def skipTimeOfDay : List Char → Option (List Char)
  | c :: rest => if c = 'T' ∨ c = 't' ∨ c = ' ' then skipClock rest else none
  | [] => none

/-- The text after a date, a time of day, or both; only both may have an offset. -/
def skipTime (text : List Char) : Option (List Char) :=
  match skipDate text with
  | some rest =>
    match skipTimeOfDay rest with
    | some rest => skipOffset rest
    | none => some rest
  | none => skipClock text

/-- Reads a date, a time of day, or both. -/
def readTime : Reader Value := fun text =>
  (skipTime text).map fun rest =>
    (.time (String.ofList (text.take (text.length - rest.length))), rest)

/-- Reads a number or a time. -/
def readNumber : Reader Value := fun text =>
  let ((_, negative), unsigned) := readSign text
  (((readTime text).or (readFloat text)).or (readNamed negative unsigned)).or (readInteger text)

/-! ### Values -/

/-- Reads the items of an array up to its closing bracket; `fuel` bounds how many. -/
def readItems (read : Reader Value) : (fuel : Nat) → Reader (List Value)
  | 0, _ => none
  | fuel + 1, text =>
    let skip (text : List Char) := skipLines (text.length + 1) text
    match skip text with
    | ']' :: rest => some ([], rest)
    | text => do
      let (item, rest) ← read text
      match skip rest with
      | ']' :: rest => some ([item], rest)
      | ',' :: rest => do
        let (items, rest) ← readItems read fuel rest
        some (item :: items, rest)
      | _ => none

/-- Reads an entry. -/
def readEntry (read : Reader Value) : Reader (Path × Value) := fun text => do
  let (path, rest) ← readPath text
  match rest with
  | '=' :: rest => do
    let (value, rest) ← read (skipSpace rest)
    some ((path, value), skipSpace rest)
  | _ => none

/--
Whether entries can stand in one table.  A dotted key makes the tables that it names,
and other dotted keys may add to these; but what has a value of its own gets nothing
added, so no key may begin another.
-/
def compatible : List (Path × Value) → Bool
  | [] => true
  | (path, _) :: rest =>
    rest.all (fun (other, _) => !path.isPrefixOf other && !other.isPrefixOf path) &&
      compatible rest

/-- Reads the entries of a table on one line, of which there is at least one. -/
def readEntries (read : Reader Value) : (fuel : Nat) → Reader (List (Path × Value))
  | 0, _ => none
  | fuel + 1, text => do
    let (entry, rest) ← readEntry read text
    match rest with
    | '\x7d' :: rest => some ([entry], rest)
    | ',' :: rest => do
      let (entries, rest) ← readEntries read fuel rest
      some (entry :: entries, rest)
    | _ => none

/-- Reads a value; `levels` bounds how deeply it is nested. -/
def readValue : (levels : Nat) → Reader Value
  | levels, text =>
    match text with
    | '[' :: rest =>
      match levels with
      | 0 => none
      | levels + 1 => do
        let (items, rest) ← readItems (readValue levels) (rest.length + 1) rest
        some (.array items, rest)
    | '\x7b' :: rest =>
      match levels with
      | 0 => none
      | levels + 1 =>
        match skipSpace rest with
        | '\x7d' :: rest => some (.table [], rest)
        | rest => do
          let (entries, rest) ← readEntries (readValue levels) (rest.length + 1) rest
          if compatible entries then some (.table entries, rest) else none
    | _ =>
      match (afterWord? "true" text).map fun rest => (Value.boolean true, rest) with
      | some result => some result
      | none =>
        match (afterWord? "false" text).map fun rest => (Value.boolean false, rest) with
        | some result => some result
        | none =>
          match (readString text).map fun (s, rest) => (Value.string s, rest) with
          | some result => some result
          | none => readNumber text

/-! ### Statements -/

/-- Reads a header, after its opening brackets. -/
def readHeader (closing : List Char) : Reader Path := fun text => do
  let (path, rest) ← readPath text
  if rest.take closing.length = closing then some (path, rest.drop closing.length) else none

/-- Reads what a line says, if it says anything. -/
def readStatement : Reader (Option Statement) := fun text =>
  match text with
  | [] => some (none, [])
  | '#' :: _ => some (none, text)
  | '\n' :: _ => some (none, text)
  | '\r' :: _ => some (none, text)
  | '[' :: '[' :: rest =>
    (readHeader [']', ']'] rest).map fun (path, rest) => (some (.itemHeader path), rest)
  | '[' :: rest => (readHeader [']'] rest).map fun (path, rest) => (some (.header path), rest)
  | _ =>
    (readEntry (readValue maxLevels) text).map fun ((path, value), rest) =>
      (some (.entry path value), rest)

/-- Reads statements, one to a line; `fuel` bounds how many lines. -/
def readStatements : (fuel : Nat) → List Char → Option (List Statement)
  | 0, _ => none
  | fuel + 1, text => do
    let (statement, rest) ← readStatement (skipSpace text)
    let here := statement.toList
    match skipRemark (skipSpace rest) with
    | [] => some here
    | rest => do
      let below ← readStatements fuel (← lineEnd? rest)
      some (here ++ below)

/-- A text without the mark that some programs put before it. -/
def withoutMark : List Char → List Char
  | '\uFEFF' :: rest => rest
  | text => text

/-- The statements of a document. -/
def statements (text : String) : Option (List Statement) :=
  let chars := withoutMark text.toList
  readStatements (chars.length + 1) chars

end Draftsman.Toml
