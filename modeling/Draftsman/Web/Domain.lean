/-
Names of hosts as they are looked up.

A name consists of labels with points between them.  It is folded and composed
first.  A label with characters from 0x80 on is then looked up under a code in plain
characters; a label that already is such a code has to be the code of a label that
could be written without it.  Labels that are read from the right keep to rules that
let everyone see where they begin and end.
-/
import Draftsman.Text.Cut
import Draftsman.Text.Direction
import Draftsman.Text.Joining
import Draftsman.Text.Normal
import Draftsman.Web.Folding
import Draftsman.Web.Punycode

namespace Draftsman.Web

open Draftsman.Text

/-- A part of a name. -/
structure Label where
  /-- The characters that are read. -/
  text : List Char
  /-- The characters that are looked up. -/
  code : List Char

/-- What the code of a label begins with. -/
def codeMark : List Char := "xn--".toList

/-- Whether a text has only characters below 0x80. -/
def isAscii (text : List Char) : Bool := text.all fun c => c.toNat < 0x80

/-! ### Labels that can be read -/

/-- The character that joins two letters. -/
def joiner : Char := '\u200D'

/-- The character that keeps two letters apart. -/
def nonJoiner : Char := '\u200C'

/-- Whether the last character is a mark that takes away a vowel; the last stands first. -/
def endsInKiller (before : List Char) : Bool :=
  (before.head?.map fun c => markClass c == vowelKiller).getD false

/-- Whether two letters would be joined; the last character before stands first. -/
def wouldJoin (before after : List Char) : Bool :=
  ((before.dropWhile joinsAcross).head?.map joinsForwards).getD false &&
    ((after.dropWhile joinsAcross).head?.map joinsBackwards).getD false

/-- Whether a character makes a difference between its neighbours. -/
def fitsBetween (before after : List Char) (c : Char) : Bool :=
  if c = joiner then endsInKiller before
  else if c = nonJoiner then endsInKiller before || wouldJoin before after
  else true

/--
Whether every joiner and non-joiner makes a difference; the last character before
stands first.
-/
def joinersFit (before : List Char) : List Char → Bool
  | [] => true
  | c :: rest => fitsBetween before rest c && joinersFit (c :: before) rest

/-- The greatest length of a label that gets a code. -/
def maxCoded : Nat := 1000

/-- The greatest length of a code behind its mark. -/
def maxCode : Nat := 2000

/-- Whether a label that is not in plain characters can be read. -/
def isReadable (text : List Char) : Bool :=
  !(text.head?.map isMark).getD false && joinersFit [] text && text.length ≤ maxCoded

/-- Whether a label is what it becomes when it is folded and composed. -/
def isSettled (text : List Char) : Bool := fold text == some text && normal text == text

/-- Whether a label needs a code, and could be given the one that it has. -/
def isCoded (text : List Char) : Bool :=
  !isAscii text && !startsWith codeMark text && isSettled text && isReadable text

/-- The label with a code, of which the mark has been taken off. -/
def labelOfCode? (code : List Char) : Option Label :=
  if isAscii code && code.length ≤ maxCode then do
    let text ← Punycode.decode? code
    if isCoded text then some ⟨text, codeMark ++ code⟩ else none
  else none

/-- The label that a folded text stands for, if it is one. -/
def label? (text : List Char) : Option Label :=
  match dropPrefix? codeMark text with
  | some code => labelOfCode? code
  | none =>
    if isAscii text then some ⟨text, text⟩
    else if isReadable text then some ⟨text, codeMark ++ Punycode.encode text⟩
    else none

/-! ### Labels that are read from the right -/

/-- Whether a label read from the left keeps to the rules. -/
def keepsLeft (ds : List Direction) (last : Direction) : Bool :=
  ds.all (fun d => d == .left || d.isCommon) && (last == .left || last == .number)

/-- Whether a label read from the right keeps to the rules; it has digits of one kind only. -/
def keepsRight (ds : List Direction) (last : Direction) : Bool :=
  ds.all (fun d => d.isRight || d.isCommon) && (last.isRight || last == .number) &&
    !(ds.contains .number && ds.contains .arabicNumber)

/-- Whether the first character of a label tells how to read it, and all others agree. -/
def keepsDirection (text : List Char) : Bool :=
  let ds := text.map direction
  match ds, (ds.reverse.dropWhile (· == .mark)).head? with
  | [], _ => true
  | .left :: _, some last => keepsLeft ds last
  | .right :: _, some last => keepsRight ds last
  | .arabicLetter :: _, some last => keepsRight ds last
  | _, _ => false

/-- Whether labels can stand together: if one is read from the right, all keep the rules. -/
def areReadable (labels : List Label) : Bool :=
  !labels.any (fun l => l.text.any fun c => (direction c).isRight) ||
    labels.all fun l => keepsDirection l.text

/-! ### Names -/

/-- Whether a character may stand in a name. -/
def standsInName (c : Char) : Bool :=
  0x20 < c.toNat && c.toNat != 0x7F && !"#%/:<>?@[\\]^|".toList.contains c

/-- A name as it is looked up, if it can be. -/
def lookupName? (text : List Char) : Option (List Char) := do
  let folded := normal (← fold text)
  let labels ← (folded.splitOn '.').mapM label?
  if folded.all standsInName && areReadable labels then
    some (['.'].intercalate (labels.map Label.code))
  else none

end Draftsman.Web
