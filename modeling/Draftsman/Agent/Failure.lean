/-
What can go wrong when a model works with tools.

A failure has a kind, and the kind decides whether the model may try again: what it
wrote may be unreadable, it may name a tool that is not there, and a tool may fail.
Every other failure ends a run.
-/
import Draftsman.Json.Codec
import Draftsman.Reply.Decision
import Draftsman.Transcript.Uuid

namespace Draftsman

open Draftsman.Json (Codec)
open Draftsman.Text (quoted backquoted)

/-- The kinds of failures. -/
inductive FailureKind where
  /-- The model wrote something that cannot be read. -/
  | parse
  | unknownTool
  | toolExecution
  /-- The model could not be asked, or did not answer. -/
  | provider
  /-- There was no answer within the number of attempts that was allowed. -/
  | budgetExhausted
  /-- The run was called off. -/
  | cancelled
  /-- Something was not set up as it has to be. -/
  | setup
  deriving DecidableEq, Repr

/-- The name of a kind. -/
def FailureKind.name : FailureKind → String
  | .parse => "parse"
  | .unknownTool => "unknown_tool"
  | .toolExecution => "tool_execution"
  | .provider => "provider"
  | .budgetExhausted => "budget_exhausted"
  | .cancelled => "cancelled"
  | .setup => "setup"

/-- Kinds, by name. -/
def FailureKind.codec : Codec FailureKind :=
  .choice
    [("parse", .parse), ("unknown_tool", .unknownTool), ("tool_execution", .toolExecution),
      ("provider", .provider), ("budget_exhausted", .budgetExhausted), ("cancelled", .cancelled),
      ("setup", .setup)]
    FailureKind.name

/-- Whether the model is told of a failure and may try again. -/
def FailureKind.isRecoverable : FailureKind → Bool
  | .parse => true
  | .unknownTool => true
  | .toolExecution => true
  | _ => false

/-- What went wrong. -/
inductive Failure where
  | requestFailed (reason : String)
  /-- The answer of a provider does not have the form it should have. -/
  | responseInvalid (reason : String)
  | rateLimited (provider reason : String)
  | providerTimeout (seconds : Nat)
  /-- There is no provider to turn to. -/
  | noProvider (hint : String)
  /-- A provider asks for a key, and there is none. -/
  | missingKey (provider keyName : String)
  | budgetExhausted (run : Uuid) (limit : UInt32)
  | cancelled (run : Uuid)
  | reply (fault : Reply.Fault)
  | unknownTool (name : String)
  | toolFailed (name reason : String)
  | duplicateTool (name : String)
  | invalidToolName (name : String)
  /-- A setting has a value that it may not have. -/
  | setting (reason : String)
  /-- The text of the settings cannot be read. -/
  | settingsText
  deriving DecidableEq, Repr

/-- The message for a failure. -/
def Failure.message : Failure → String
  | .requestFailed reason => s!"llm request failed: {reason}"
  | .responseInvalid reason => s!"llm response parse error: {reason}"
  | .rateLimited provider reason => s!"rate limited by {provider}: {reason}"
  | .providerTimeout seconds => s!"provider call timed out after {seconds}s"
  | .noProvider hint => s!"no LLM provider configured: {hint}"
  | .missingKey provider keyName => s!"missing api key for provider: {provider} (set {keyName})"
  | .budgetExhausted run limit => s!"run {run.toText} exhausted its budget of {limit} iterations"
  | .cancelled run => s!"run {run.toText} was cancelled"
  | .reply fault => s!"unparseable model output: {fault.message}"
  | .unknownTool name => s!"unknown tool: {name}"
  | .toolFailed name reason => s!"tool execution failed for {backquoted name}: {reason}"
  | .duplicateTool name => s!"tool already registered: {name}"
  | .invalidToolName name => s!"invalid tool name: {quoted name}"
  | .setting reason => s!"config error: {reason}"
  | .settingsText => "toml error: TOML parse error"

/-- The kind of a failure. -/
def Failure.kind : Failure → FailureKind
  | .requestFailed _ => .provider
  | .responseInvalid _ => .provider
  | .rateLimited .. => .provider
  | .providerTimeout _ => .provider
  | .noProvider _ => .provider
  | .missingKey .. => .provider
  | .budgetExhausted .. => .budgetExhausted
  | .cancelled _ => .cancelled
  | .reply _ => .parse
  | .unknownTool _ => .unknownTool
  | .toolFailed .. => .toolExecution
  | .duplicateTool _ => .setup
  | .invalidToolName _ => .setup
  | .setting _ => .setup
  | .settingsText => .setup

end Draftsman
