/-
The hosts of addresses on the web.

A host is a name or a numeric address.  Where the scheme is one of the usual ones a
name is brought into the form in which it is looked up, and a name that ends in a
number is an address.  Under other schemes a name is whatever it is.
-/
import Draftsman.Web.Address
import Draftsman.Web.Domain

namespace Draftsman.Web

/-- A host. -/
inductive Host where
  /-- A name, which may be empty. -/
  | name (text : List Char)
  /-- A numeric address of 32 bits. -/
  | number (address : Nat)
  /-- A numeric address of eight pieces. -/
  | pieces (address : List Nat)
  deriving DecidableEq, Repr

namespace Host

/-- A host as it is written. -/
def toText : Host → List Char
  | .name text => text
  | .number address => addressText address
  | .pieces address => '[' :: longAddressText address ++ [']']

/-- The host whose name is empty. -/
def empty : Host := .name []

/-- The host in brackets, behind the first. -/
def bracketed? (text : List Char) : Option Host := do
  some (.pieces (← longAddress? (← Text.dropLast? ']' text)))

/-- The host with a name that is looked up. -/
def named? (text : List Char) : Option Host := do
  let name ← lookupName? (decode text)
  if name.isEmpty then none
  else if endsInNumber name then (address? name).map .number
  else some (.name name)

/-- The host that a text spells under one of the usual schemes. -/
def parse? : List Char → Option Host
  | '[' :: rest => bracketed? rest
  | text => named? text

/-- Whether a character may not stand in a name that is not looked up. -/
def isForbidden (c : Char) : Bool := "\x00\t\n\r #/:<>?@[\\]^|".toList.contains c

/-- The host that a text spells under another scheme. -/
def parseOther? : List Char → Option Host
  | '[' :: rest => bracketed? rest
  | text => if text.any isForbidden then none else some (.name (encode isPrintable text))

end Host

end Draftsman.Web
