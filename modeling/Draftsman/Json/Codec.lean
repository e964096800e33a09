/-
How the values of a type are written as JSON and read back.

A codec reads in two ways: from a text, fault by fault as the characters come, and
from a `Value` that was read before.  Both accept the same values; they differ in
the fault they report where a value is of the wrong kind.  Codecs of records are
put together from codecs of their fields, one field after the other.
-/
import Draftsman.Json.Value

namespace Draftsman.Json

/-- How the values of a type are written as JSON and read back. -/
structure Codec (α : Type) where
  /-- Reads from the beginning of a text. -/
  read : Reader α
  /-- Reads from a JSON value. -/
  ofValue : Value → Except Fault α
  /-- The JSON value that is written. -/
  toValue : α → Value

/-- Reads a whole text. -/
def Codec.decode {α : Type} (c : Codec α) (text : String) : Except Fault α := do
  let (a, rest) ← c.read text.toList
  checkEnd rest
  .ok a

/-- Writes on one line. -/
def Codec.encode {α : Type} (c : Codec α) (a : α) : String := (c.toValue a).line

/-- The same codec for a type whose values correspond to those of another. -/
def Codec.map {α β : Type} (c : Codec α) (there : α → β) (back : β → α) : Codec β where
  read text := (c.read text).map fun (a, rest) => (there a, rest)
  ofValue v := (c.ofValue v).map there
  toValue b := c.toValue (back b)

/-! ### Strings and numbers -/

/-- The fault of a number that stands where something else is wanted. -/
def misplacedNumber (wanted : String) (number : Except Fault (Number × List Char)) : Fault :=
  match number with
  | .ok (n, _) => .wrongKind (.number n) wanted
  | .error fault => fault

/-- The fault of a word that stands where something else is wanted. -/
def misplacedWord (wanted : String) (found : Found) (word : Except Fault (List Char)) : Fault :=
  match word with
  | .ok _ => .wrongKind found wanted
  | .error fault => fault

/--
The fault of a text whose first value is of the wrong kind.  A word, number or
string is read to its end first, and may have a fault of its own.
-/
def misplaced (wanted : String) (text : List Char) : Fault :=
  match skipSpace text with
  | [] => .endInValue
  | 'n' :: rest => misplacedWord wanted .null (readWord "ull".toList rest)
  | 't' :: rest => misplacedWord wanted (.boolean true) (readWord "rue".toList rest)
  | 'f' :: rest => misplacedWord wanted (.boolean false) (readWord "alse".toList rest)
  | '-' :: rest => misplacedNumber wanted (readUnsigned true rest)
  | '"' :: rest =>
    match readString rest with
    | .ok (s, _) => .wrongKind (.string s) wanted
    | .error fault => fault
  | '[' :: _ => .wrongKind .sequence wanted
  | '\x7b' :: _ => .wrongKind .map wanted
  | c :: rest =>
    if isDigit c then misplacedNumber wanted (readUnsigned false (c :: rest)) else .valueExpected

/-- Reads a string; `wanted` is what a message calls it. -/
def readText (wanted : String) : Reader String := fun text =>
  match skipSpace text with
  | '"' :: rest => readString rest
  | rest => .error (misplaced wanted rest)

/-- Strings. -/
def Codec.string : Codec String where
  read := readText "a string"
  ofValue
    | .string s => .ok s
    | v => .error (.wrongKind v.found "a string")
  toValue := .string

/-- A number that has to be natural and at most `limit`. -/
def naturalOf (wanted : String) (limit : Nat) : Number → Except Fault Nat
  | .whole value =>
    if 0 ≤ value ∧ value ≤ limit then .ok value.toNat
    else .error (.wrongValue (.number (.whole value)) wanted)
  | n => .error (.wrongKind (.number n) wanted)

/-- Reads a number. -/
def readNumber (wanted : String) : Reader Number := fun text =>
  match skipSpace text with
  | '-' :: rest => readUnsigned true rest
  | c :: rest =>
    if isDigit c then readUnsigned false (c :: rest) else .error (misplaced wanted (c :: rest))
  | [] => .error .endInValue

/-- Natural numbers up to a limit. -/
def Codec.natural (wanted : String) (limit : Nat) : Codec Nat where
  read text := do
    let (n, rest) ← readNumber wanted text
    .ok (← naturalOf wanted limit n, rest)
  ofValue
    | .number n => naturalOf wanted limit n
    | v => .error (.wrongKind v.found wanted)
  toValue n := .nat n

/-- Natural numbers of 32 bits. -/
def Codec.word32 : Codec UInt32 :=
  (Codec.natural "u32" 0xFFFFFFFF).map UInt32.ofNat UInt32.toNat

/-- Numbers that count things in memory. -/
def Codec.count : Codec Nat := .natural "usize" 0xFFFFFFFFFFFFFFFF

/-- Values that are written as a string of their own form. -/
def Codec.spelled {α : Type} (wanted : String) (parse : String → Except String α)
    (spell : α → String) : Codec α where
  read text := do
    let (s, rest) ← readText wanted text
    match parse s with
    | .ok a => .ok (a, rest)
    | .error reason => .error (.unreadable reason)
  ofValue
    | .string s => (parse s).mapError .unreadable
    | v => .error (.wrongKind v.found wanted)
  toValue a := .string (spell a)

/-! ### Options and lists -/

/-- A value or null. -/
def Codec.option {α : Type} (c : Codec α) : Codec (Option α) where
  read text :=
    match skipSpace text with
    | 'n' :: rest => do .ok (none, ← readWord "ull".toList rest)
    | rest => do
      let (a, rest) ← c.read rest
      .ok (some a, rest)
  ofValue
    | .null => .ok none
    | v => (c.ofValue v).map some
  toValue
    | none => .null
    | some a => c.toValue a

/-- Arrays. -/
def Codec.list {α : Type} (c : Codec α) : Codec (List α) where
  read text :=
    match skipSpace text with
    | '[' :: rest => do
      let item (items : List α) : Reader (List α) := fun text => do
        let (a, rest) ← c.read text
        .ok (a :: items, rest)
      let (items, rest) ← readItems item true [] (rest.length + 1) rest
      .ok (items.reverse, rest)
    | rest => .error (misplaced "a sequence" rest)
  ofValue
    | .array items => items.mapM c.ofValue
    | v => .error (.wrongKind v.found "a sequence")
  toValue items := .array (items.map c.toValue)

/-! ### Choices

One of a few names.  A name may stand alone, as a string, or as the only key of an
object, with null behind it.
-/

/-- The value that a name stands for. -/
def named {α : Type} (table : List (String × α)) (name : String) : Except Fault α :=
  match table.lookup name with
  | some a => .ok a
  | none => .error (.unknownName name (table.map Prod.fst))

/-- Reads null, the only thing that may stand behind a name. -/
def readNothing : List Char → Except Fault (List Char) := fun text =>
  match skipSpace text with
  | 'n' :: rest => readWord "ull".toList rest
  | rest => .error (misplaced "unit" rest)

/-- Reads a name from a text. -/
def readChoice {α : Type} (table : List (String × α)) : Reader α := fun text =>
  match skipSpace text with
  | [] => .error .endInValue
  | '"' :: rest => do
    let (name, rest) ← readString rest
    .ok (← named table name, rest)
  | '\x7b' :: rest => do
    let (name, rest) ← readText "variant identifier" rest
    let a ← named table name
    let rest ← readNothing (← readColon rest)
    match skipSpace rest with
    | [] => .error .endInObject
    | '\x7d' :: rest => .ok (a, rest)
    | _ => .error .valueExpected
  | _ => .error .valueExpected

/-- Takes a name from a value. -/
def takeChoice {α : Type} (table : List (String × α)) : Value → Except Fault α
  | .string name => named table name
  | .object [(name, v)] => do
    let a ← named table name
    match v with
    | .null => .ok a
    | v => .error (.wrongKind v.found "unit")
  | .object _ => .error (.wrongValue .map "map with a single key")
  | v => .error (.wrongKind v.found "string or map")

/-- One of the names of a table; `name` is the one that is written. -/
def Codec.choice {α : Type} (table : List (String × α)) (name : α → String) : Codec α where
  read := readChoice table
  ofValue := takeChoice table
  toValue a := .string (name a)

/-! ### Records

A record is an object with known keys, in any order; entries with other keys are
passed over.  It may also be an array of its fields in their order, of which
those at the end may be left out if they have a default.
-/

/-- One field of a record. -/
structure Field (α : Type) where
  key : String
  codec : Codec α
  /-- The value of a field that is not there, if it may be left out. -/
  absent : Option α
  /-- Whether the field is left out of what is written. -/
  hidden : α → Bool

/-- A field that has to be there. -/
def Field.required {α : Type} (key : String) (codec : Codec α) : Field α :=
  ⟨key, codec, none, fun _ => false⟩

/-- A field that may be left out when it is read. -/
def Field.default {α : Type} (key : String) (codec : Codec α) (absent : α) : Field α :=
  ⟨key, codec, some absent, fun _ => false⟩

/-- A field that may be null or left out, and is left out when it has no value. -/
def Field.optional {α : Type} (key : String) (codec : Codec α) : Field (Option α) :=
  ⟨key, codec.option, some none, Option.isNone⟩

/-- The fields of a record in their order, whose values together are an `α`. -/
structure Row (α : Type) where
  /-- How many fields there are. -/
  count : Nat
  /-- What is known of the values while a record is read. -/
  Slots : Type
  /-- Nothing is known yet. -/
  empty : Slots
  /-- Reads the entry of a key, from its colon on, unless no field has that key. -/
  entry? : String → Slots → Option (Reader Slots)
  /-- Takes the entry of a key, unless no field has that key. -/
  takeEntry? : String → Slots → Option (Value → Except Fault Slots)
  /-- The values, when all entries have been read. -/
  finish : Slots → Except Fault α
  /--
  Reads the fields from the items of an array.  `wanted` describes the array that
  would be long enough, `index` counts the items before.
  -/
  items : (wanted : String) → (index : Nat) → Reader α
  /-- Takes the fields from the items of an array, and returns those left over. -/
  takeItems : (wanted : String) → (index : Nat) → List Value → Except Fault (α × List Value)
  /-- The entries that are written. -/
  entries : α → List (String × Value)

/-- No fields. -/
def Row.nil : Row Unit where
  count := 0
  Slots := Unit
  empty := ()
  entry? _ _ := none
  takeEntry? _ _ := none
  finish _ := .ok ()
  items _ _ text := .ok ((), text)
  takeItems _ _ items := .ok ((), items)
  entries _ := []

/-- The value of a field that is not there. -/
def Field.missing {α : Type} (f : Field α) (fault : Fault) : Except Fault α :=
  match f.absent with
  | some a => .ok a
  | none => .error fault

/-- A field before others. -/
def Row.cons {α β : Type} (f : Field α) (row : Row β) : Row (α × β) where
  count := row.count + 1
  Slots := Option α × row.Slots
  empty := (none, row.empty)
  entry? key slots :=
    if key = f.key then
      some fun text =>
        match slots.1 with
        | some _ => .error (.duplicateField f.key)
        | none => do
          let (a, rest) ← f.codec.read (← readColon text)
          .ok ((some a, slots.2), rest)
    else
      (row.entry? key slots.2).map fun reader text => do
        let (others, rest) ← reader text
        .ok ((slots.1, others), rest)
  takeEntry? key slots :=
    if key = f.key then
      some fun v =>
        match slots.1 with
        | some _ => .error (.duplicateField f.key)
        | none => (f.codec.ofValue v).map fun a => (some a, slots.2)
    else
      (row.takeEntry? key slots.2).map fun take v => (take v).map fun others => (slots.1, others)
  finish slots := do
    let a ←
      match slots.1 with
      | some a => .ok a
      | none => f.missing (.missingField f.key)
    .ok (a, ← row.finish slots.2)
  items wanted index text := do
    match ← nextItem? (index == 0) text with
    | none =>
      let a ← f.missing (.wrongLength index wanted)
      let (b, rest) ← row.items wanted (index + 1) text
      .ok ((a, b), rest)
    | some text =>
      let (a, rest) ← f.codec.read text
      let (b, rest) ← row.items wanted (index + 1) rest
      .ok ((a, b), rest)
  takeItems wanted index
    | [] => do
      let a ← f.missing (.wrongLength index wanted)
      let (b, rest) ← row.takeItems wanted (index + 1) []
      .ok ((a, b), rest)
    | v :: vs => do
      let a ← f.codec.ofValue v
      let (b, rest) ← row.takeItems wanted (index + 1) vs
      .ok ((a, b), rest)
  entries ab :=
    if f.hidden ab.1 then row.entries ab.2
    else (f.key, f.codec.toValue ab.1) :: row.entries ab.2

/-- What a message calls an array that holds all fields of a record. -/
def Row.described {α : Type} (row : Row α) (name : String) : String :=
  s!"struct {name} with {row.count} " ++ if row.count = 1 then "element" else "elements"

/-- Reads one entry of a record. -/
def Row.readEntry {α : Type} (row : Row α) (slots : row.Slots) (key : String) : Reader row.Slots :=
  match row.entry? key slots with
  | some reader => reader
  | none => fun text => do .ok (slots, ← skip (← readColon text))

/-- Takes one entry of a record. -/
def Row.takeEntry {α : Type} (row : Row α) (slots : row.Slots) (entry : String × Value) :
    Except Fault row.Slots :=
  match row.takeEntry? entry.1 slots with
  | some take => take entry.2
  | none => .ok slots

/-- Records; a message calls them by `name`. -/
def Codec.record {α : Type} (name : String) (row : Row α) : Codec α where
  read text :=
    match skipSpace text with
    | '\x7b' :: rest => do
      let (slots, rest) ← readEntries row.readEntry true row.empty (rest.length + 1) rest
      .ok (← row.finish slots, rest)
    | '[' :: rest => do
      let (a, rest) ← row.items (row.described name) 0 rest
      .ok (a, ← closeArray rest)
    | rest => .error (misplaced s!"struct {name}" rest)
  ofValue
    | .object entries => do row.finish (← entries.foldlM row.takeEntry row.empty)
    | .array items => do
      let (a, rest) ← row.takeItems (row.described name) 0 items
      if rest.isEmpty then .ok a
      else .error (.wrongLength items.length "fewer elements in array")
    | v => .error (.wrongKind v.found s!"struct {name}")
  toValue a := .object (row.entries a)

end Draftsman.Json
