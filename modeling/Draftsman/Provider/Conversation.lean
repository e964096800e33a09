/-
Conversations in the form in which a service wants them.

One form takes the messages as they are.  The other takes what the model is told
beforehand apart from the messages, and never two messages in a row from one side.
-/
import Draftsman.Agent.Message

namespace Draftsman

open Draftsman.Json (Value)

/-- What the model is told beforehand, and the turns of the conversation. -/
structure Turns where
  system : Option String
  turns : List Message
  deriving DecidableEq, Repr

/-- Adds to what the model is told beforehand, on a line of its own. -/
def addSystem (content : String) : Option String → Option String
  | none => some content
  | some text => some (text ++ "\n" ++ content)

/-- Adds a message to turns of which the last one stands first. -/
def addTurn (m : Message) : List Message → List Message
  | last :: before =>
    if last.role = m.role then ⟨last.role, last.content ++ "\n\n" ++ m.content⟩ :: before
    else m :: last :: before
  | [] => [m]

/-- Adds a message, the last turn standing first. -/
def Turns.add (t : Turns) (m : Message) : Turns :=
  match m.role with
  | .system => { t with system := addSystem m.content t.system }
  | _ => { t with turns := addTurn m t.turns }

/--
The turns of a conversation.  The system messages are put together line by line,
and messages in a row from one side become one, with an empty line between them.
-/
def Turns.ofMessages (messages : List Message) : Turns :=
  let t := messages.foldl Turns.add ⟨none, []⟩
  { t with turns := t.turns.reverse }

/-- A message as a service wants it. -/
def Message.toWire (m : Message) : Value :=
  .object [("role", .string m.role.name), ("content", .string m.content)]

end Draftsman
