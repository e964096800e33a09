/-
What the program needs of the machine it runs on.
-/
import Draftsman.Agent.Tool
import Draftsman.Provider.Client
import Draftsman.Transcript.Instant

namespace Draftsman.Program

/-- Why a file could not be read or written. -/
inductive FileFault where
  /-- There is no such file. -/
  | missing
  /-- There is a directory in its place. -/
  | isDirectory
  /-- Something on the way to it is no directory. -/
  | notDirectory
  /-- Its name, or the whole path, is longer than any can be. -/
  | tooLong
  | denied
  /-- Its bytes are no text. -/
  | notText
  | other (reason : String)
  deriving DecidableEq, Repr

/-- The message for a fault. -/
def FileFault.message : FileFault → String
  | .missing => "No such file or directory (os error 2)"
  | .isDirectory => "Is a directory (os error 21)"
  | .notDirectory => "Not a directory (os error 20)"
  | .tooLong => "File name too long (os error 36)"
  | .denied => "Permission denied (os error 13)"
  | .notText => "stream did not contain valid UTF-8"
  | .other reason => reason

/-- A machine on which the program can run. -/
structure Host (m : Type → Type) where
  /-- The value of a variable of the environment. -/
  lookup : (name : String) → m (Option String)
  /-- Everything that stands on the standard input. -/
  input : m (Except FileFault String)
  /-- Whether there is a file, and not a directory, at a path. -/
  isFile : (path : String) → m Bool
  /-- The text of a file. -/
  load : (path : String) → m (Except FileFault String)
  /-- Gives a file a text, whether or not there was one before. -/
  save : (path text : String) → m (Except FileFault Unit)
  /-- Prints on the standard output. -/
  out : (text : String) → m Unit
  /-- Prints on the standard error output. -/
  err : (text : String) → m Unit
  /-- Sends a request, and waits for the answer at most `limit` milliseconds. -/
  send : (limit : Nat) → Request → m (Response Delivery)
  /-- An identifier that was never given before. -/
  freshId : m Uuid
  now : m Instant

end Draftsman.Program
