/-
Addresses on the web.

An address has a scheme, and under most schemes a host, a path, a query and a
fragment.  Behind the host a number may say which of its services is meant.  An
address is brought into its usual form while it is read: without the number that goes
with the scheme, without steps back in its path, and with every character that may
not stand in its place spelled out by its bytes.
-/
import Draftsman.Web.Host
import Draftsman.Web.Path

namespace Draftsman.Web

open Draftsman.Text

/-- The name and the password of a user. -/
structure Credentials where
  user : List Char
  password : Option (List Char)
  deriving DecidableEq, Repr

/-- An address on the web. -/
structure Url where
  scheme : String
  credentials : Credentials
  host : Option Host
  /-- The number of the service, unless it is the one that goes with the scheme. -/
  service : Option Nat
  path : List Char
  query : Option (List Char)
  fragment : Option (List Char)
  deriving DecidableEq, Repr

/-! ### Writing -/

namespace Credentials

/-- No user. -/
def none : Credentials := ⟨[], .none⟩

/-- Whether there is no user. -/
def isNone (c : Credentials) : Bool := c.user.isEmpty && c.password.isNone

/-- A user as written before a host. -/
def toText (c : Credentials) : List Char :=
  if c.isNone then []
  else c.user ++ ((c.password.map (':' :: ·)).getD []) ++ ['@']

end Credentials

namespace Url

/-- Something optional behind its mark. -/
def marked (mark : Char) (text : Option (List Char)) : List Char :=
  (text.map (mark :: ·)).getD []

/-- The user, the host and its service. -/
def authorityText (u : Url) (host : Host) : List Char :=
  u.credentials.toText ++ host.toText ++ marked ':' (u.service.map (Nat.toDigits 10))

/-- What stands before the path; a path must not look like a host. -/
def beforePath (u : Url) : List Char :=
  match u.host with
  | some host => "//".toList ++ u.authorityText host
  | none => if startsWith "//".toList u.path then "/.".toList else []

/-- The path and the query, which is what a host is asked for. -/
def target (u : Url) : String := String.ofList (u.path ++ marked '?' u.query)

/-- An address as it is written. -/
def toText (u : Url) : String :=
  u.scheme ++ ":" ++ String.ofList u.beforePath ++ u.target ++
    String.ofList (marked '#' u.fragment)

/-! ### The kinds of schemes -/

/-- The service that goes with a scheme. -/
def usualService? (scheme : String) : Option Nat :=
  match scheme with
  | "http" => some 80
  | "https" => some 443
  | "ws" => some 80
  | "wss" => some 443
  | "ftp" => some 21
  | _ => none

/-- Whether the addresses of a scheme lead to files. -/
def leadsToFiles (scheme : String) : Bool := scheme == "file"

/-- Whether a scheme is one of the usual ones, under which a backslash is a slash. -/
def isUsual (scheme : String) : Bool := (usualService? scheme).isSome || leadsToFiles scheme

/-- Whether a character is a slash under a scheme. -/
def isSlash (scheme : String) (c : Char) : Bool := c == '/' || (isUsual scheme && c == '\\')

/-- Whether a character ends what stands before the path. -/
def endsHost (scheme : String) (c : Char) : Bool := isSlash scheme c || c == '?' || c == '#'

/-! ### Reading what stands before the path -/

/-- What stands before and behind the last occurrence of a character, if there is one. -/
def cutLast (c : Char) (text : List Char) : Option (List Char × List Char) :=
  (cut c text.reverse).map fun (after, before) => (before.reverse, after.reverse)

/-- The user that a text before a host spells. -/
def credentialsOf (text : List Char) : Credentials :=
  match cut ':' text with
  | none => ⟨encode standsInCredentials text, .none⟩
  | some (user, password) =>
    ⟨encode standsInCredentials user,
      if password.isEmpty then .none else some (encode standsInCredentials password)⟩

/-- The user before a host, if one is given, and what stands behind the sign for it. -/
def cutUser (scheme : String) (text : List Char) : Option (List Char) × List Char :=
  match cutLast '@' (text.takeWhile fun c => !endsHost scheme c) with
  | some (user, _) => (some user, text.drop (user.length + 1))
  | none => (none, text)

/-- How many characters of a text belong to its host, which a colon in brackets does not end. -/
def hostLength (scheme : String) (inside : Bool) : List Char → Nat
  | [] => 0
  | c :: rest =>
    if endsHost scheme c ∨ (c = ':' ∧ !inside) then 0
    else
      hostLength scheme (if c = '[' then true else if c = ']' then false else inside) rest + 1

/-- The service that digits spell, if there are any and it is not the usual one. -/
def service? (scheme : String) (ds : List Char) : Option (Option Nat) := do
  let n ← numberIn? 10 ds
  if n ≤ 65535 then some (if ds.isEmpty ∨ usualService? scheme = some n then none else some n)
  else none

/-- Whether a character ends the number of a service. -/
def endsService (c : Char) : Bool := c == '/' || c == '\\' || c == '?' || c == '#'

/-- The service behind a host, if one is given, and what stands behind it. -/
def cutService? (scheme : String) (text : List Char) : Option (Option Nat × List Char) :=
  match text with
  | ':' :: rest =>
    let digits := rest.takeWhile Char.isDigit
    let behind := rest.drop digits.length
    if (behind.head?.map endsService).getD true then
      (service? scheme digits).map (·, behind)
    else
      none
  | _ => some (none, text)

/-! ### Reading the path and what stands behind it -/

/-- Whether a character may stand in the query of an address. -/
def standsInQueryOf (scheme : String) (c : Char) : Bool :=
  standsInQuery c && !(isUsual scheme && c == '\'')

/-- The address with the query and the fragment that stand behind its path. -/
def withEnd (u : Url) (text : List Char) : Url :=
  let query := text.takeWhile (· != '#')
  let fragment := text.drop query.length
  { u with
    query := if query.isEmpty then none else some (encode (standsInQueryOf u.scheme) query.tail)
    fragment := if fragment.isEmpty then none else some (encode standsInFragment fragment.tail) }

/-- The path in a text, and the query and the fragment behind it. -/
def cutPath (text : List Char) : List Char × List Char :=
  let path := text.takeWhile fun c => c != '?' && c != '#'
  (path, text.drop path.length)

/-- The address with the path that a text spells, and with what stands behind it. -/
def withPath (u : Url) (text : List Char) : Url :=
  let (path, ending) := cutPath text
  let steps := walk false [] (stepsOf (isSlash u.scheme) path)
  let bare := path.isEmpty && !isUsual u.scheme
  { u with path := if bare then [] else pathText steps }.withEnd ending

/-- The address whose path is no more than a text. -/
def withText (u : Url) (text : List Char) : Url :=
  let (path, ending) := cutPath text
  { u with path := encode isPrintable path }.withEnd ending

/-! ### Addresses of files -/

/-- The host of a file; the machine itself has none. -/
def fileHost? (text : List Char) : Option Host :=
  if text.isEmpty then some .empty
  else (Host.parse? text).map fun host => if host = .name "localhost".toList then .empty else host

/-- The address of a file on a host; where its path begins with a drive, no host is meant. -/
def ofFile (host : Host) (text : List Char) : Url :=
  let (path, ending) := cutPath text
  let steps := walk true [] (stepsOf (isSlash "file") path)
  let onDrive := (steps.head?.map Step.isDrive).getD false
  let kept := steps.dropWhile List.isEmpty
  let u : Url := ⟨"file", .none, some (if onDrive then .empty else host), none,
    pathText (if kept.isEmpty then [[]] else kept), none, none⟩
  u.withEnd ending

/-- What stands behind two slashes, if a text begins with them. -/
def behindSlashes? (scheme : String) : List Char → Option (List Char)
  | a :: b :: rest => if isSlash scheme a && isSlash scheme b then some rest else none
  | _ => none

/-- The address of a file, behind its scheme. -/
def fileBehind? (text : List Char) : Option Url :=
  match behindSlashes? "file" text with
  | none => some (ofFile .empty text)
  | some rest =>
    let name := rest.takeWhile fun c => !endsHost "file" c
    if Step.isDrive name then some (ofFile .empty rest)
    else (fileHost? name).map fun host => ofFile host (rest.drop name.length)

/-! ### Reading -/

/--
The address with a host, behind the slashes before it.  Only under other than the usual
schemes the host may be empty, and then it has no user and no service.
-/
def hostBehind? (scheme : String) (text : List Char) : Option Url := do
  let (user?, rest) := cutUser scheme text
  let credentials := (user?.map credentialsOf).getD .none
  let name := rest.take (hostLength scheme false rest)
  let behind := rest.drop name.length
  let host ← if isUsual scheme then Host.parse? name else Host.parseOther? name
  if host = .empty ∧ (behind.head? = some ':' ∨ !credentials.isNone ∨ user? = some []) then none
  else do
    let (service, behind) ← cutService? scheme behind
    some (withPath ⟨scheme, credentials, some host, service, [], none, none⟩ behind)

/-- The address under a scheme that is not one of the usual ones. -/
def otherBehind? (scheme : String) (text : List Char) : Option Url :=
  let bare : Url := ⟨scheme, .none, none, none, [], none, none⟩
  match behindSlashes? scheme text with
  | some rest => hostBehind? scheme rest
  | none =>
    if text.head? = some '/' then some (bare.withPath text) else some (bare.withText text)

/-- What stands behind the scheme of an address. -/
def behindScheme? (scheme : String) (text : List Char) : Option Url :=
  if leadsToFiles scheme then fileBehind? text
  else if isUsual scheme then hostBehind? scheme (text.dropWhile (isSlash scheme))
  else otherBehind? scheme text

/-- Whether a character may stand in the name of a scheme. -/
def standsInScheme (c : Char) : Bool := c.isAlphanum || c == '+' || c == '-' || c == '.'

/-- Whether a character at the ends of an address does not belong to it. -/
def isOutside (c : Char) : Bool := c.toNat ≤ 0x20

/-- Whether a character inside an address is passed over. -/
def isIgnored (c : Char) : Bool := c == '\t' || c == '\n' || c == '\r'

/-- The address that a text spells, if it spells one. -/
def parse? (text : String) : Option Url :=
  let text := (dropEnd isOutside (dropStart isOutside text.toList)).filter fun c => !isIgnored c
  let scheme := text.takeWhile standsInScheme
  match text.drop scheme.length with
  | ':' :: rest =>
    if (scheme.head?.map Char.isAlpha).getD false then
      behindScheme? (String.ofList (scheme.map Char.toLower)) rest
    else none
  | _ => none

/-! ### Requests -/

/-- The address without a user, who is told to the host in another way if it is text. -/
def withoutUser (u : Url) : Url :=
  let c := u.credentials
  let told := c.user ≠ [] ∨ (c.password.map isDecodable).getD false
  if isDecodable c.user ∧ told then { u with credentials := .none } else u

/-- Whether an address leads to the web. -/
def isWeb (u : Url) : Bool := u.scheme == "http" || u.scheme == "https"

/-- The greatest length of an address to which a request can be sent. -/
def maxLength : Nat := 65534

/-- Whether a character of a name can be sent. -/
def isSent (c : Char) : Bool := !"\"`\x7b\x7d".toList.contains c

/-- Whether requests can be sent to an address. -/
def isSendable (u : Url) : Bool :=
  u.isWeb && (u.host.map fun host => host.toText.all isSent).getD false &&
    u.toText.utf8ByteSize ≤ maxLength

end Url

end Draftsman.Web
