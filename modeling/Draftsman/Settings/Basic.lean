/-
The settings of the program.

Every setting may be left open.  What is set can come from a file, from the
environment, and from the command line, and what comes later counts more; what
nobody has set takes a value of its own only where it is used.
-/
import Draftsman.Agent.Limits
import Draftsman.Provider.Backend

namespace Draftsman

open Draftsman.Text (blankString trimmed quoted)

/-- The settings of runs. -/
structure AgentSettings where
  maxIterations : Option UInt32
  /-- How long the model may take, in seconds. -/
  providerTimeout : Option UInt64
  /-- How long a tool may take, in seconds. -/
  toolTimeout : Option UInt64
  temperature : Option Float32
  maxTokens : Option UInt32
  instructions : Option String
  deriving Repr

/-- The settings of the service. -/
structure ServiceSettings where
  name : Option String
  model : Option String
  baseUrl : Option String
  deriving DecidableEq, Repr

/-- All settings. -/
structure Settings where
  agent : AgentSettings
  provider : ServiceSettings
  deriving Repr

namespace Settings

/-- Nothing is set. -/
def unset : Settings := ⟨⟨none, none, none, none, none, none⟩, ⟨none, none, none⟩⟩

/-! ### The environment -/

/-- The value of a variable, by its name. -/
abbrev Environment := String → Option String

/-- The value of a variable that is not blank. -/
def value? (environment : Environment) (name : String) : Option String :=
  (environment name).filter fun value => !blankString value

/-- The settings with the service, the model and the address that the environment names. -/
def withService (environment : Environment) (s : Settings) : Settings :=
  { s with provider :=
    { name := (value? environment "FIGAGENT_PROVIDER").or s.provider.name
      model := (value? environment "FIGAGENT_MODEL").or s.provider.model
      baseUrl := (value? environment "FIGAGENT_API_BASE_URL").or s.provider.baseUrl } }

/-- A natural number of 32 bits in decimal digits, perhaps with a plus sign. -/
def word32? (text : List Char) : Option UInt32 :=
  let ds :=
    match text with
    | '+' :: rest => rest
    | _ => text
  let n := ds.foldl (fun n d => n * 10 + (d.toNat - '0'.toNat)) 0
  if !ds.isEmpty && ds.all Char.isDigit && n < 0x100000000 then some (UInt32.ofNat n) else none

/-- The number of iterations that the environment sets, if it sets one. -/
def iterations? (environment : Environment) : Except Failure (Option UInt32) :=
  match value? environment "FIGAGENT_MAX_ITERATIONS" with
  | none => .ok none
  | some value =>
    match word32? (Text.trim value.toList) with
    | some n => .ok (some n)
    | none =>
      .error (.setting
        s!"FIGAGENT_MAX_ITERATIONS must be a positive integer, got {quoted value}")

/-- The settings with another number of iterations, if one is given. -/
def withIterations (n : Option UInt32) (s : Settings) : Settings :=
  { s with agent := { s.agent with maxIterations := n.or s.agent.maxIterations } }

/--
The settings after those of the environment.  If the number of iterations is none,
that is a failure, but what else the environment sets has been set.
-/
def applyEnvironment (environment : Environment) (s : Settings) :
    Settings × Except Failure Unit :=
  let s := s.withService environment
  match iterations? environment with
  | .ok n => (s.withIterations n, .ok ())
  | .error failure => (s, .error failure)

/-! ### The command line -/

/-- What the command line can set. -/
structure Overrides where
  provider : Option String
  model : Option String
  maxIterations : Option UInt32
  deriving DecidableEq, Repr

/-- The settings after those of the command line. -/
def override (o : Overrides) (s : Settings) : Settings :=
  withIterations o.maxIterations
    { s with provider :=
      { s.provider with
        name := o.provider.or s.provider.name
        model := o.model.or s.provider.model } }

/-! ### Where settings are used -/

/-- A time in seconds as milliseconds. -/
def millis (seconds : UInt64) : Nat := seconds.toNat * 1000

/-- The limits of runs. -/
def limits (s : Settings) : Limits where
  maxIterations := s.agent.maxIterations.getD Limits.default.maxIterations
  providerTimeout := (s.agent.providerTimeout.map millis).getD Limits.default.providerTimeout
  toolTimeout := (s.agent.toolTimeout.map millis).getD Limits.default.toolTimeout
  instructions := s.agent.instructions

/-- What is known when a service is to be chosen. -/
def providerSettings (credentials : List (String × String)) (s : Settings) : ProviderSettings where
  provider := s.provider.name
  model := s.provider.model
  baseUrl := s.provider.baseUrl
  credentials

/-- An endpoint with the length and the variation of replies that are set. -/
def tune (s : Settings) (e : Endpoint) : Endpoint :=
  { e with
    temperature := s.agent.temperature.or e.temperature
    maxTokens := s.agent.maxTokens.getD e.maxTokens }

end Settings

end Draftsman
