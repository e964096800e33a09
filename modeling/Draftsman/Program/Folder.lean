/-
A folder of files that is held in memory.

A place in a folder is the list of the names on the way to it.  There is a
directory wherever there is a file below.  A path is followed name by name, and may
lead out of the folder, to the directories around it.  Of these nothing is known:
whatever is looked for there is missing, and what is written there is not seen again.
-/
import Draftsman.Program.Host
import Draftsman.Text.Blank

namespace Draftsman.Program

open Draftsman.Text (dropEnd)

/-- A place in a folder. -/
abbrev Place := List String

/-- The texts of files by their places. -/
structure Folder where
  files : List (Place × String)
  deriving DecidableEq, Repr

/-- What there is at a place. -/
inductive Found where
  | file (text : String)
  | directory
  | nothing
  deriving DecidableEq, Repr

namespace Folder

/-- The names on a path. -/
def names (path : String) : List String := (path.toList.splitOn '/').map String.ofList

/-- A folder of files by their paths. -/
def ofFiles (files : List (String × String)) : Folder :=
  ⟨files.map fun (path, text) => (names path, text)⟩

/-- The files of a folder by their paths. -/
def toFiles (f : Folder) : List (String × String) :=
  f.files.map fun (place, text) => ("/".intercalate place, text)

/-- Whether there is something below a place. -/
def hasBelow (f : Folder) (place : Place) : Bool :=
  f.files.any fun file => place.isPrefixOf file.1 && place.length < file.1.length

/-- What there is at a place; the folder itself is a directory even if it is empty. -/
def at? (f : Folder) (place : Place) : Found :=
  match f.files.lookup place with
  | some text => .file text
  | none => if place.isEmpty || f.hasBelow place then .directory else .nothing

/-- Where a path leads. -/
inductive Target where
  /-- To a place in the folder. -/
  | inside (place : Place)
  /-- To a directory around the folder. -/
  | around
  /-- To a name in such a directory. -/
  | beyond
  /-- To the file that is always empty. -/
  | sink
  deriving DecidableEq, Repr

/-- Whether a name on a path does not lead down. -/
def staysAbove (name : String) : Bool := name == "" || name == "." || name == ".."

/-- The greatest length of a name in bytes. -/
def maxName : Nat := 255

/-- The greatest length of a path in bytes. -/
def maxPath : Nat := 4095

/-- Where names lead from around the folder. -/
def followAround : List String → Except FileFault Target
  | [] => .ok .around
  | name :: rest =>
    if staysAbove name then followAround rest
    else if maxName < name.utf8ByteSize then .error .tooLong
    else if rest.isEmpty then .ok .beyond
    else .error .missing

/-- Where names lead from a place. -/
def follow (f : Folder) : Place → List String → Except FileFault Target
  | place, [] => .ok (.inside place)
  | place, name :: rest =>
    match f.at? place with
    | .file _ => .error .notDirectory
    | .nothing => .error .missing
    | .directory =>
      if name = "" ∨ name = "." then follow f place rest
      else if name = ".." then
        if place = [] then followAround rest else follow f place.dropLast rest
      else if maxName < name.utf8ByteSize then .error .tooLong
      else follow f (place ++ [name]) rest

/-- Whether names from the root on lead to the file that is always empty. -/
def isSink (ns : List String) : Bool :=
  ns.filter (fun name => name ≠ "" ∧ name ≠ ".") == ["dev", "null"]

/-- Where a path leads; a path that begins with a slash leads from the root on. -/
def resolve (f : Folder) (path : String) : Except FileFault Target :=
  if maxPath < path.utf8ByteSize then .error .tooLong
  else
    match names path with
    | [""] => .error .missing
    | "" :: rest => if isSink rest then .ok .sink else followAround rest
    | ns => f.follow [] ns

/-- What there is where a path leads. -/
def look (f : Folder) : Target → Found
  | .inside place => f.at? place
  | .around => .directory
  | .beyond => .nothing
  | .sink => .file ""

/-- Whether there is a file at a path. -/
def isFile (f : Folder) (path : String) : Bool :=
  match (f.resolve path).map f.look with
  | .ok (.file _) => true
  | _ => false

/-- The text of a file. -/
def load (f : Folder) (path : String) : Except FileFault String := do
  match f.look (← f.resolve path) with
  | .file text => .ok text
  | .directory => .error .isDirectory
  | .nothing => .error .missing

/-- The files with another text for one of them, or with one more. -/
def put (place : Place) (text : String) : List (Place × String) → List (Place × String)
  | [] => [(place, text)]
  | (p, t) :: rest => if p = place then (place, text) :: rest else (p, t) :: put place text rest

/-- A path without the slashes at its end, but for the root. -/
def withoutSlashes (path : String) : String :=
  match path.toList with
  | [] => ""
  | c :: rest => String.ofList (c :: dropEnd (· == '/') rest)

/-- The folder after a text has been written to a path, which must not end in a slash. -/
def save (f : Folder) (path text : String) : Except FileFault Folder := do
  let target ← f.resolve (withoutSlashes path)
  if f.look target = .directory ∨ withoutSlashes path ≠ path then .error .isDirectory
  else
    match target with
    | .inside place => .ok ⟨put place text f.files⟩
    | _ => .ok f

end Folder

end Draftsman.Program
