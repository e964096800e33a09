/-
Requests to a model, and what their answers mean.

A request is built from an endpoint and a conversation, and an answer is read as
the reply of the model.  Sending the one and receiving the other is left to whoever
calls; what came of it is told by `Delivery`.
-/
import Draftsman.Provider.Backend
import Draftsman.Provider.Conversation
import Draftsman.Provider.Status
import Draftsman.Text.Utf8
import Draftsman.Web.Url

namespace Draftsman

open Draftsman.Json (Value)
open Draftsman.Text (dropEnd)
open Draftsman.Web (Url)

/-- A request as it is sent. -/
structure Request where
  url : String
  headers : List (String × String)
  body : Value
  deriving Repr

/-- An answer as it is received. -/
structure Answer where
  status : Nat
  /-- The bytes of the body. -/
  body : List Nat
  deriving DecidableEq, Repr

/-- The text of the body of an answer. -/
def Answer.text (a : Answer) : String :=
  if hasNoBody a.status then "" else Text.decodeUtf8 a.body

/-- What came of sending a request. -/
inductive Exchange where
  | answered (answer : Answer)
  /-- There was no answer. -/
  | unanswered
  deriving Repr

/-- An exchange, unless the answer broke off in its body; a text then tells why. -/
abbrev Delivery := Except String Exchange

namespace Endpoint

/-! ### Requests -/

/-- Whether a text may be the value of a header. -/
def isHeaderValue (text : String) : Bool :=
  text.toList.all fun c => (c.toNat ≥ 0x20 || c == '\t') && c.toNat != 0x7F

/-- A header with a value that may be none. -/
def header (name value fault : String) : Except Failure (String × String) :=
  if isHeaderValue value then .ok (name, value)
  else .error (.requestFailed s!"invalid {fault} header: failed to parse header value")

/-- The header that says what the body is. -/
def contentType : String × String := ("content-type", "application/json")

/-- The headers of a request. -/
def headers (e : Endpoint) : Except Failure (List (String × String)) :=
  match e.protocol with
  | .anthropic => do
    let key ← header "x-api-key" e.key "API key"
    .ok [key, ("anthropic-version", "2023-06-01"), contentType]
  | .openai => do
    let key ← header "authorization" s!"Bearer {e.key}" "authorization"
    .ok [key, contentType]

/-- The address of the service without the slashes at its end. -/
def baseAddress (e : Endpoint) : String := String.ofList (dropEnd (· == '/') e.baseUrl.toList)

/-- The address to which requests are sent. -/
def address (e : Endpoint) : String :=
  match e.protocol with
  | .anthropic => e.baseAddress ++ "/v1/messages"
  | .openai => e.baseAddress ++ "/chat/completions"

/-- The entry for the temperature, if it is not left to the service. -/
def temperatureEntry (e : Endpoint) : List (String × Value) :=
  (e.temperature.map fun t => ("temperature", Value.float t.toFloat)).toList

/-- The entries for the conversation. -/
def conversationEntries (e : Endpoint) (messages : List Message) : List (String × Value) :=
  match e.protocol with
  | .anthropic =>
    let t := Turns.ofMessages messages
    ("messages", .array (t.turns.map Message.toWire)) ::
      (t.system.map fun text => ("system", Value.string text)).toList
  | .openai => [("messages", .array (messages.map Message.toWire))]

/-- The body of a request. -/
def requestBody (e : Endpoint) (messages : List Message) : Value :=
  .object <|
    [("model", .string e.model), ("max_tokens", .nat e.maxTokens.toNat)] ++
      e.conversationEntries messages ++ e.temperatureEntry

/-- The request that sends a conversation. -/
def request (e : Endpoint) (messages : List Message) : Except Failure Request := do
  let headers ← e.headers
  .ok ⟨e.address, headers, e.requestBody messages⟩

/-! ### Answers -/

/-- The text of a block of a reply, if it is text. -/
def blockText? (block : Value) : Option String :=
  if (block.get "type").asString? = some "text" then (block.get "text").asString? else none

/-- The reply in an answer that is a list of blocks. -/
def blocksReply (v : Value) : Except Failure String :=
  match v.get "content" with
  | .array blocks => .ok (String.join (blocks.filterMap blockText?))
  | _ => .error (.responseInvalid "missing `content` array in response")

/-- The reply in an answer that is a list of choices. -/
def choicesReply (v : Value) : Except Failure String :=
  match ((v.get "choices").item 0).get "message" with
  | .null => .error (.responseInvalid "missing `choices[0].message` in response")
  | message => .ok ((message.get "content").asString?.getD "")

/-- The reply in an answer. -/
def replyOf (e : Endpoint) (v : Value) : Except Failure String :=
  match e.protocol with
  | .anthropic => blocksReply v
  | .openai => choicesReply v

/-- The reply of the model, or why the answer holds none. -/
def readAnswer (e : Endpoint) (a : Answer) : Except Failure String :=
  if a.status = tooManyRequests then .error (.rateLimited e.label a.text)
  else if !isSuccess a.status then
    .error (.requestFailed s!"API returned {statusText a.status}: {a.text}")
  else
    match Json.parse a.text with
    | .error fault => .error (.responseInvalid s!"invalid JSON response: {fault.message}")
    | .ok v => e.replyOf v

/-! ### Exchanges -/

/-- The address that a text spells, without a user. -/
def addressOf? (text : String) : Option Url := (Url.parse? text).map Url.withoutUser

/-- Why a request cannot be sent to an address. -/
def addressFailure? (address : String) : Option Failure :=
  match addressOf? address with
  | none => some (.requestFailed "builder error")
  | some u =>
    if u.isSendable then none else some (.requestFailed s!"builder error for url ({u.toText})")

/-- The failure of a request that was not answered. -/
def unansweredFailure (address : String) : Failure :=
  match addressOf? address with
  | none => .requestFailed "builder error"
  | some u => .requestFailed s!"error sending request for url ({u.toText})"

/-- The reply of the model after an exchange. -/
def readExchange (e : Endpoint) : Exchange → Except Failure String
  | .answered a => e.readAnswer a
  | .unanswered => .error (unansweredFailure e.address)

/-- The reply of the model, if its answer was delivered to the end. -/
def readDelivery (e : Endpoint) : Delivery → Except Failure String
  | .ok exchange => e.readExchange exchange
  | .error reason => .error (.requestFailed s!"failed to read response body: {reason}")

/-- The request that sends a conversation, if it can be sent to where it should go. -/
def prepare (e : Endpoint) (messages : List Message) : Except Failure Request := do
  let r ← e.request messages
  match addressFailure? r.url with
  | some failure => .error failure
  | none => .ok r

end Endpoint

end Draftsman
