/-
The messages of a conversation with a model.
-/
import Draftsman.Json.Codec

namespace Draftsman

open Draftsman.Json (Codec)

/-- Who wrote a message. -/
inductive Role where
  /-- Nobody in the conversation: what the model is told before it begins. -/
  | system
  /-- The user, or the loop that reports to the model on the user's behalf. -/
  | user
  /-- The model. -/
  | assistant
  deriving DecidableEq, Repr

/-- The name of a role. -/
def Role.name : Role → String
  | .system => "system"
  | .user => "user"
  | .assistant => "assistant"

/-- A message of a conversation. -/
structure Message where
  role : Role
  content : String
  deriving DecidableEq, Repr

/-- Roles, by name. -/
def Role.codec : Codec Role :=
  .choice [("system", .system), ("user", .user), ("assistant", .assistant)] Role.name

/-- Messages. -/
def Message.codec : Codec Message :=
  (Codec.record "ChatMessage" <|
    .cons (.required "role" Role.codec) <|
    .cons (.default "content" .string "") .nil).map
    (fun (role, content, _) => ⟨role, content⟩)
    (fun m => (m.role, m.content, ()))

end Draftsman
