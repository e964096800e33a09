/-
The services that can answer as a model, and the choice of one.

A service is chosen by name, or else the first one is taken for which there is a
key.  A service that is chosen by name never gives way to another: if its key is
missing, that is a failure.  Only the key of the service that is taken is used.
-/
import Draftsman.Agent.Failure
import Draftsman.Text.Casing

namespace Draftsman

open Draftsman.Text (lowercase uppercase)

/-- The two forms of request that services understand. -/
inductive Protocol where
  | anthropic
  | openai
  deriving DecidableEq, Repr

/-- The name of a protocol. -/
def Protocol.name : Protocol → String
  | .anthropic => "anthropic"
  | .openai => "openai"

/-- Everything that a request to a model needs. -/
structure Endpoint where
  protocol : Protocol
  /-- The name under which results mention the service. -/
  label : String
  key : String
  baseUrl : String
  model : String
  /-- How long a reply may be, in tokens. -/
  maxTokens : UInt32
  /-- How much replies vary; none leaves it to the service. -/
  temperature : Option Float32
  deriving Repr

/-- An endpoint with the usual length of replies and no variation. -/
def Endpoint.usual (protocol : Protocol) (label key baseUrl model : String) : Endpoint where
  protocol
  label
  key
  baseUrl
  model
  maxTokens := 4096
  temperature := some 0

/-- A service that is known by name. -/
structure Backend where
  name : String
  protocol : Protocol
  /-- The name of its key. -/
  keyName : String
  defaultModel : String
  baseUrl : String
  deriving DecidableEq, Repr

/-- The services that need a key, in the order in which a key is looked for. -/
def backends : List Backend :=
  [⟨"anthropic", .anthropic, "ANTHROPIC_API_KEY", "claude-sonnet-4-20250514",
      "https://api.anthropic.com"⟩,
    ⟨"openai", .openai, "OPENAI_API_KEY", "gpt-4o", "https://api.openai.com/v1"⟩,
    ⟨"deepseek", .openai, "DEEPSEEK_API_KEY", "deepseek-chat", "https://api.deepseek.com/v1"⟩,
    ⟨"google", .openai, "GOOGLE_API_KEY", "gemini-2.5-flash",
      "https://generativelanguage.googleapis.com/v1beta/openai"⟩,
    ⟨"openrouter", .openai, "OPENROUTER_API_KEY", "anthropic/claude-sonnet-4",
      "https://openrouter.ai/api/v1"⟩,
    ⟨"groq", .openai, "GROQ_API_KEY", "llama-3.3-70b-versatile",
      "https://api.groq.com/openai/v1"⟩,
    ⟨"mistral", .openai, "MISTRAL_API_KEY", "mistral-large-latest", "https://api.mistral.ai/v1"⟩]

/-- The names of all keys. -/
def keyNames : List String := backends.map Backend.keyName

/-- What is known when a service is to be chosen. -/
structure ProviderSettings where
  /-- The name of the service, if one was asked for. -/
  provider : Option String
  /-- The model to use in place of the usual one. -/
  model : Option String
  /-- The address to use in place of the usual one. -/
  baseUrl : Option String
  /-- The keys by their names. -/
  credentials : List (String × String)
  deriving DecidableEq, Repr

namespace ProviderSettings

/-- The key with a name; one that is empty counts as missing. -/
def credential? (s : ProviderSettings) (keyName : String) : Option String :=
  (s.credentials.lookup keyName).filter fun key => !key.isEmpty

/-- The endpoint of a service, with its key. -/
def endpoint (s : ProviderSettings) (b : Backend) (key : String) : Endpoint :=
  .usual b.protocol b.name key (s.baseUrl.getD b.baseUrl) (s.model.getD b.defaultModel)

/-- The name of the service that runs on the machine itself and needs no key. -/
def localName : String := "ollama"

/-- The endpoint of the service that runs on the machine itself. -/
def localEndpoint (s : ProviderSettings) : Endpoint :=
  .usual .openai localName "ollama" (s.baseUrl.getD "http://localhost:11434/v1")
    (s.model.getD "qwen2.5:latest")

/-- The name of a service that is also known by another name. -/
def canonicalName (name : String) : String :=
  match name with
  | "claude" => "anthropic"
  | "gpt" => "openai"
  | "gemini" => "google"
  | "local" => localName
  | name => name

/-- The endpoint of a service nobody has heard of, at an address that has to be given. -/
def customEndpoint (s : ProviderSettings) (name : String) : Except Failure Endpoint :=
  match s.baseUrl with
  | none => .error (.setting s!"provider '{name}' requires an explicit API base URL")
  | some url =>
    .ok (.usual .openai name ((s.credential? "OPENAI_API_KEY").getD "no-key") url
      (s.model.getD name))

/-- The endpoint of the service with a name. -/
def named (s : ProviderSettings) (name : String) : Except Failure Endpoint :=
  if name = localName then .ok s.localEndpoint
  else
    match backends.find? fun b => b.name == name with
    | some b =>
      match s.credential? b.keyName with
      | some key => .ok (s.endpoint b key)
      | none => .error (.missingKey b.name b.keyName)
    | none => s.customEndpoint name

/-- The first service for which there is a key. -/
def firstWithKey? (s : ProviderSettings) : Option Endpoint :=
  backends.findSome? fun b => (s.credential? b.keyName).map (s.endpoint b)

/-- What to do when there is no service. -/
def hint : String :=
  "set one of " ++ ", ".intercalate keyNames ++ " or select a provider explicitly"

/-- The endpoint to use. -/
def resolve (s : ProviderSettings) : Except Failure Endpoint :=
  match s.provider with
  | some name => s.named (canonicalName (lowercase name))
  | none =>
    match s.firstWithKey? with
    | some e => .ok e
    | none => .error (.noProvider hint)

end ProviderSettings

/-- The failure of an endpoint that has no key. -/
def Endpoint.check (e : Endpoint) : Except Failure Unit :=
  if e.key.isEmpty then .error (.missingKey e.label (uppercase e.label ++ "_API_KEY")) else .ok ()

end Draftsman
