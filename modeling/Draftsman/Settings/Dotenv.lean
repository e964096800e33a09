/-
Files that give values to variables of the environment.

Such a file has an entry on each line, a name and a value with an equals sign
between them.  A value may be quoted, it may go on over several lines while a
quotation is open, and it may refer to variables that have a value already.  No
entry changes a variable that has a value, so the environment counts more than the
file, and an earlier entry more than a later one.  What stands behind a line that
cannot be read is passed over.
-/
import Draftsman.Text.Alphanumeric
import Draftsman.Text.Cut

namespace Draftsman.Dotenv

open Draftsman.Text

/-! ### Lines that belong together -/

/-- Where in an entry a character stands, as far as the ends of entries depend on it. -/
inductive Spot where
  | plain
  /-- Behind a blank, where a remark may begin. -/
  | blank
  | escape
  /-- Between single quotes. -/
  | strong
  | strongEscape
  /-- Between double quotes. -/
  | weak
  | weakEscape
  | remark
  deriving DecidableEq, Repr

/-- The spot behind a character that is not quoted. -/
def Spot.behindPlain (c : Char) : Spot :=
  match c with
  | '\\' => .escape
  | '"' => .weak
  | '\'' => .strong
  | _ => .plain

/-- The spot behind a character. -/
def Spot.behind (c : Char) : Spot → Spot
  | .plain => if isBlank c && c != '\n' && c != '\r' then .blank else behindPlain c
  | .blank => if c = '#' then .remark else behindPlain c
  | .escape => .plain
  | .strong => if c = '\\' then .strongEscape else if c = '\'' then .plain else .strong
  | .strongEscape => .strong
  | .weak => if c = '\\' then .weakEscape else if c = '"' then .plain else .weak
  | .weakEscape => .weak
  | .remark => .remark

/-- The part of a line before a remark, and the spot behind the line. -/
def scan : Spot → List Char → List Char × Spot
  | spot, [] => ([], spot)
  | spot, c :: rest =>
    let next := spot.behind c
    if next = .remark then ([], .remark)
    else
      let (kept, last) := scan next rest
      (c :: kept, last)

/-- Whether a text is nothing but a remark. -/
def isRemark (text : List Char) : Bool := (trimStart text).head? == some '#'

/--
The texts of the entries, `begun` being the part of one that earlier lines hold.  An
entry that breaks off at the end of the file has no text.
-/
def entryTexts : (begun : List Char) → Spot → List (List Char) → List (Option (List Char))
  | _, .plain, [] => []
  | _, _, [] => [none]
  | begun, spot, line :: rest =>
    if isRemark (begun ++ line) then entryTexts [] .plain rest
    else
      match scan spot line with
      | (_, .plain) => some (begun ++ line) :: entryTexts [] .plain rest
      | (kept, .remark) => some (begun ++ kept) :: entryTexts [] .plain rest
      | (_, next) => entryTexts (begun ++ line) next rest

/-! ### Values -/

/-- A piece of a value. -/
inductive Piece where
  | char (c : Char)
  /-- The value of a variable. -/
  | reference (name : String)
  deriving DecidableEq, Repr

/-- How the next character of a value is read. -/
inductive Mode where
  | usual
  | escaped
  /-- Between single quotes. -/
  | strong
  /-- In the name of a variable. -/
  | name (begun : List Char)
  /-- In the name of a variable that stands in braces. -/
  | bracedName (begun : List Char)
  /-- Behind the value, where only blanks and a remark may stand. -/
  | ended
  | remark
  deriving DecidableEq, Repr

/-- A value of which a part has been read. -/
structure Partial where
  mode : Mode
  /-- Whether this is between double quotes. -/
  weak : Bool
  /-- The pieces read so far, the last one first. -/
  pieces : List Piece
  deriving Repr

namespace Partial

/-- Adds a character. -/
def push (p : Partial) (c : Char) : Partial :=
  { p with mode := .usual, pieces := .char c :: p.pieces }

/-- Adds a reference. -/
def refer (p : Partial) (name : List Char) : Partial :=
  { p with mode := .usual, pieces := .reference (String.ofList name) :: p.pieces }

/-- Reads a character behind a backslash. -/
def addEscaped (p : Partial) (c : Char) : Option Partial :=
  if c = 'n' then some (p.push '\n')
  else if "\\'\"$ ".toList.contains c then some (p.push c)
  else none

/-- Reads a character behind the beginning of a name. -/
def addToName (p : Partial) (begun : List Char) (c : Char) : Partial :=
  if isAlphanumeric c then { p with mode := .name (begun ++ [c]) }
  else if c = '\x7b' ∧ begun = [] then { p with mode := .bracedName [] }
  else if c = '$' then { p.refer begun with mode := .name [] }
  else (p.refer begun).push c

/-- Reads a character where nothing special is going on. -/
def addUsual (p : Partial) (c : Char) : Partial :=
  if c = '$' then { p with mode := .name [] }
  else if c = '\\' then { p with mode := .escaped }
  else if c = '"' then { p with weak := !p.weak }
  else if p.weak then p.push c
  else if c = '\'' then { p with mode := .strong }
  else if c = ' ' ∨ c = '\t' then { p with mode := .ended }
  else p.push c

/-- Reads a character. -/
def add (p : Partial) (c : Char) : Option Partial :=
  match p.mode with
  | .usual => some (p.addUsual c)
  | .escaped => p.addEscaped c
  | .strong =>
    some (if c = '\'' then { p with mode := .usual } else { p.push c with mode := .strong })
  | .name begun => some (p.addToName begun c)
  | .bracedName begun =>
    some (if c = '\x7d' then p.refer begun else { p with mode := .bracedName (begun ++ [c]) })
  | .ended =>
    if c = '#' then some { p with mode := .remark }
    else if c = ' ' ∨ c = '\t' then some p
    else none
  | .remark => some p

/-- The pieces of the value, if it may end here. -/
def finish (p : Partial) : Option (List Piece) :=
  if p.weak then none
  else
    match p.mode with
    | .strong => none
    | .bracedName _ => none
    | .name begun => some (p.refer begun).pieces.reverse
    | _ => some p.pieces.reverse

end Partial

/-- The pieces of a value. -/
def pieces? (text : List Char) : Option (List Piece) := do
  (← text.foldlM Partial.add ⟨.usual, false, []⟩).finish

/-! ### Entries -/

/-- An entry of a file. -/
structure Entry where
  name : String
  value : List Piece
  deriving DecidableEq, Repr

/-- Whether the name of a variable may begin with a character. -/
def beginsName (c : Char) : Bool := c.isAlpha || c == '_'

/-- Whether a character may stand in the name of a variable. -/
def standsInName (c : Char) : Bool := c.isAlphanum || c == '_' || c == '.'

/-- The name with which a text begins, and the text behind it and the blanks after it. -/
def readName (text : List Char) : Option (List Char × List Char) :=
  if (text.head?.map beginsName).getD false then
    some (text.takeWhile standsInName, trimStart (text.dropWhile standsInName))
  else none

/-- The name and the text behind its equals sign; the name may stand behind the word `export`. -/
def readNameOf (text : List Char) : Option (List Char × List Char) := do
  match ← readName text with
  | (name, '=' :: value) => some (name, value)
  | (name, rest) =>
    if name = "export".toList then
      match ← readName rest with
      | (name, '=' :: value) => some (name, value)
      | _ => none
    else none

/-- The entry that a text spells; a text may also be blank or a remark, and spell none. -/
def entry? (text : List Char) : Option (Option Entry) :=
  let text := trim text
  if text.isEmpty || isRemark text then some none
  else do
    let (name, value) ← readNameOf text
    let value := trimStart value
    if isRemark value then some (some ⟨String.ofList name, []⟩)
    else do some (some ⟨String.ofList name, ← pieces? value⟩)

/-- The entries before the first text that cannot be read. -/
def readable : List (Option (List Char)) → List Entry
  | [] => []
  | text :: rest =>
    match text.bind entry? with
    | none => []
    | some none => readable rest
    | some (some e) => e :: readable rest

/-- The mark with which a file may begin that says how its characters are encoded. -/
def byteOrderMark : Char := '\uFEFF'

/-- The entries of a file. -/
def entries (text : String) : List Entry :=
  let chars := text.toList
  let chars := if chars.head? = some byteOrderMark then chars.tail else chars
  readable (entryTexts [] .plain (wholeLines chars))

/-! ### What a file does to the environment -/

/-- Variables with their values. -/
abbrev Variables := List (String × String)

/-- The name to which a piece refers. -/
def Piece.name? : Piece → Option String
  | .char _ => none
  | .reference name => some name

/-- The names that an entry speaks of. -/
def Entry.names (e : Entry) : List String := e.name :: e.value.filterMap Piece.name?

/-- What a piece stands for; a variable without a value stands for nothing. -/
def Piece.text (environment : Variables) : Piece → String
  | .char c => String.singleton c
  | .reference name => (environment.lookup name).getD ""

/-- The variables after an entry. -/
def Entry.apply (environment : Variables) (e : Entry) : Variables :=
  if (environment.lookup e.name).isSome then environment
  else (e.name, String.join (e.value.map (Piece.text environment))) :: environment

/-- The variables after a file. -/
def load (environment : Variables) (es : List Entry) : Variables := es.foldl Entry.apply environment

end Draftsman.Dotenv
