/-
A machine that is a value.

Running the program on it is a function of what the machine was before: the
variables of its environment, its input, its files, and the answers that requests
will get.  What the program did can be read off what the machine is afterwards.
-/
import Draftsman.Program.Folder

namespace Draftsman.Program

/-- A machine. -/
structure World where
  environment : List (String × String)
  input : String
  folder : Folder
  /-- What has been printed on the standard output. -/
  out : String
  /-- What has been printed on the standard error output. -/
  err : String
  /-- The answers that requests will get; when there are none left, requests get no answer. -/
  answers : List Answer
  /-- The requests that were answered, the first one first. -/
  requests : List Request
  deriving Repr

namespace World

/-- A machine on which nothing has happened. -/
def fresh (environment files : List (String × String)) (input : String) (answers : List Answer) :
    World where
  environment
  input
  folder := .ofFiles files
  out := ""
  err := ""
  answers
  requests := []

/-- Writes a file. -/
def save (path text : String) (w : World) : Except FileFault Unit × World :=
  match w.folder.save path text with
  | .ok folder => (.ok (), { w with folder })
  | .error fault => (.error fault, w)

/-- Sends a request. -/
def send (request : Request) (w : World) : Response Delivery × World :=
  match w.answers with
  | [] => (.returned (.ok .unanswered) false, w)
  | a :: rest =>
    (.returned (.ok (.answered a)) false,
      { w with answers := rest, requests := w.requests ++ [request] })

/-- A machine that is a value, as a machine; its clock stands still. -/
def host : Host (StateM World) where
  lookup name := do return (← get).environment.lookup name
  input := do return .ok (← get).input
  isFile path := do return (← get).folder.isFile path
  load path := do return (← get).folder.load path
  save path text := modifyGet (save path text)
  out text := modify fun w => { w with out := w.out ++ text }
  err text := modify fun w => { w with err := w.err ++ text }
  send _ request := modifyGet (send request)
  freshId := pure Uuid.nil
  now := pure ⟨0, 0⟩

end World

end Draftsman.Program
