/-
The program on the machine that it runs on.

This machine reads and writes files and keeps the time.  It has no connection to
any service, so its requests go unanswered.
-/
import Draftsman.Program.Commands
import Std.Time.DateTime.Timestamp

namespace Draftsman.Program.Machine

/-- The fault that an error of the machine means. -/
def faultOf : IO.Error → FileFault
  | .noFileOrDirectory .. => .missing
  | .permissionDenied .. => .denied
  | .inappropriateType _ 20 _ => .notDirectory
  | .inappropriateType .. => .isDirectory
  | .invalidArgument _ 36 _ => .tooLong
  | e => .other e.toString

/-- The text that bytes are, if they are a text. -/
def textOf (bytes : ByteArray) : Except FileFault String :=
  match String.fromUTF8? bytes with
  | some text => .ok text
  | none => .error .notText

/-- What comes of something that may fail with an error of the machine. -/
def attempt {α : Type} (action : IO α) : IO (Except FileFault α) := do
  try return .ok (← action)
  catch e => return .error (faultOf e)

/-- The text of a file. -/
def load (path : String) : IO (Except FileFault String) := do
  return (← attempt (IO.FS.readBinFile path)).bind textOf

/-- Whether there is a file at a path, even if it cannot be read. -/
def isFile (path : String) : IO Bool := do
  match ← load path with
  | .error .missing => return false
  | .error .isDirectory => return false
  | .error .notDirectory => return false
  | .error .tooLong => return false
  | _ => return true

/-- Everything that is left on a stream. -/
partial def readAll (stream : IO.FS.Stream) (before : ByteArray) : IO ByteArray := do
  let bytes ← stream.read 65536
  if bytes.isEmpty then return before else readAll stream (before ++ bytes)

/-- Everything that stands on the standard input. -/
def input : IO (Except FileFault String) := do
  return (← attempt (do readAll (← IO.getStdin) .empty)).bind textOf

/-- The time. -/
def now : IO Instant := do
  let t := (← Std.Time.Timestamp.now).val
  return ⟨t.second.val, t.nano.val.toNat⟩

/-- A number of 80 random bits. -/
def random : IO Nat := do
  return (← IO.getRandomBytes 10).foldl (fun n byte => n * 256 + byte.toNat) 0

/-- An identifier for something that begins now. -/
def freshId : IO Uuid := do
  let t ← now
  return .ofTime (t.seconds.toNat * 1000 + t.nanos / 1000000) (← random)

/-- The machine. -/
def host : Host IO where
  lookup name := IO.getEnv name
  input
  isFile
  load
  save path text := attempt (IO.FS.writeFile path text)
  out text := do (← IO.getStdout).putStr text
  err text := do (← IO.getStderr).putStr text
  send _ _ := return .returned (.ok .unanswered) false
  freshId
  now

end Draftsman.Program.Machine

/-- Runs the program. -/
def main (words : List String) : IO UInt32 := do
  return (← Draftsman.Program.perform Draftsman.Program.Machine.host words).toUInt32
