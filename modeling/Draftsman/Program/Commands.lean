/-
What the program does.

The program learns its settings, then carries out one command.  It ends with a
status code: 0 if all went well, 1 if it did not, 2 if the command line makes no
sense, and 130 if a run was called off.
-/
import Draftsman.Agent.World
import Draftsman.Diagram.Tool
import Draftsman.Program.Arguments
import Draftsman.Program.Host
import Draftsman.Program.Trouble
import Draftsman.Settings.Document
import Draftsman.Settings.Dotenv
import Draftsman.Transcript.Listing

namespace Draftsman.Program

open Draftsman.Json (Codec)

variable {m : Type → Type} [Monad m]

/-- Something that the program does on a machine, and that may fail. -/
abbrev Task (m : Type → Type) (α : Type) := ExceptT Trouble m α

/-- Whatever there is, or else the trouble that a fault means. -/
def expect {ε α : Type} (trouble : ε → Trouble) : Except ε α → Task m α
  | .ok a => pure a
  | .error e => throw (trouble e)

/-- Whatever there is, or else the failure as a trouble. -/
def orFail {α : Type} (result : Except Failure α) : Task m α := expect Trouble.ofFailure result

/-- Whatever there is, or else the trouble that the failure causes. -/
def orFailTo {α : Type} (text : String) (result : Except Failure α) : Task m α :=
  expect (fun f => Trouble.because text (.ofFailure f)) result

/-- The trouble that a fault with a file causes. -/
def fileTrouble (verb path : String) (fault : FileFault) : Trouble :=
  ⟨s!"failed to {verb} {path}", [fault.message]⟩

/-- Writes a file. -/
def save (host : Host m) (path text : String) : Task m Unit := do
  expect (fileTrouble "write" path) (← host.save path text)

/-! ### Settings -/

/-- The file in which variables of the environment are set. -/
def dotenvPath : String := ".env"

/-- The file with the settings that is read if no other one is named. -/
def settingsPath : String := "figagent.toml"

/-- The names of the variables that the program asks for. -/
def variableNames : List String :=
  ["FIGAGENT_PROVIDER", "FIGAGENT_MODEL", "FIGAGENT_API_BASE_URL", "FIGAGENT_MAX_ITERATIONS"] ++
    keyNames

/-- Those of the variables with the given names that have a value. -/
def knownVariables (host : Host m) (names : List String) : m Dotenv.Variables := do
  let values ← names.mapM fun name => do return (← host.lookup name).map fun value => (name, value)
  return values.filterMap id

/-- The variables after the file in which they are set. -/
def loadVariables (host : Host m) : m Dotenv.Variables := do
  let entries :=
    match ← host.load dotenvPath with
    | .ok text => Dotenv.entries text
    | .error _ => []
  let known ← knownVariables host (variableNames ++ entries.flatMap Dotenv.Entry.names)
  return Dotenv.load known entries

/-- The settings in a file. -/
def readSettings (host : Host m) (path : String) : m (Except Failure Settings) := do
  match ← host.load path with
  | .ok text => return Settings.ofText text
  | .error fault => return .error (.setting s!"cannot read {path}: {fault.message}")

/-- The settings in the file that is named, or else in the usual one if it is there. -/
def findSettings (host : Host m) (config : Option String) : m (Except Failure Settings) := do
  match config with
  | some path => readSettings host path
  | none =>
    if ← host.isFile settingsPath then readSettings host settingsPath else return .ok .unset

/-- The settings that hold for a command. -/
def loadSettings (host : Host m) (environment : Dotenv.Variables) (config : Option String)
    (overrides : Settings.Overrides) : Task m Settings := do
  let s ← orFailTo "failed to load configuration" (← .lift (findSettings host config))
  let (s, applied) := s.applyEnvironment fun name => environment.lookup name
  orFailTo "invalid FIGAGENT_* environment" applied
  return s.override overrides

/-- The endpoint that the settings and the keys among the variables lead to. -/
def endpoint (environment : Dotenv.Variables) (s : Settings) : Except Failure Endpoint :=
  (s.providerSettings (environment.filter fun v => keyNames.contains v.1)).resolve

/-! ### Commands -/

/-- Says which service would be used. -/
def showEndpoint (host : Host m) (e : Endpoint) : m Unit := do
  host.out s!"  Provider: {e.label}\n"
  host.out s!"  Model:    {e.model}\n"
  host.out s!"  Base URL: {e.baseUrl}\n"

/-- Shows which service would be used. -/
def providers (host : Host m) (environment : Dotenv.Variables) (config provider : Option String) :
    Task m UInt8 := do
  let s ← loadSettings host environment config ⟨provider, none, none⟩
  match endpoint environment s with
  | .ok e => do
    .lift (showEndpoint host e)
    return 0
  | .error failure => do
    host.err s!"  No usable provider: {failure.message}\n"
    return 1

/-- The text that spells a diagram; a hyphen stands for the standard input. -/
def loadDiagram (host : Host m) (file : String) : Task m String := do
  if file = "-" then
    expect (fun fault => ⟨"failed to read spec from stdin", [fault.message]⟩) (← host.input)
  else expect (fileTrouble "read" file) (← host.load file)

/-- Draws the diagram that a file spells. -/
def render (host : Host m) (file : String) (output : Option String) : Task m UInt8 := do
  let text ← loadDiagram host file
  let svg ←
    expect (fun fault => ⟨s!"invalid diagram spec in {file}", [fault.message]⟩)
      (Diagram.render text)
  match output with
  | some path => save host path svg
  | none => host.out svg
  return 0

/-- What came of asking the model. -/
def ask (host : Host m) (e : Endpoint) (limits : Limits) (run : Run) :
    m (Response (Except Failure String)) := do
  match e.prepare run.messages with
  | .error failure => return .returned (.error failure) false
  | .ok request => return (← host.send limits.providerTimeout request).map e.readDelivery

/-- Tells of the last step of a run. -/
def tellStep (host : Host m) (number : Nat) (s : Step) : m Unit := host.err (s.listing number)

/-- What surrounds a run on a machine; each step is told unless the run is to be `quiet`. -/
def surroundings (host : Host m) (e : Endpoint) (agent : Agent) (quiet : Bool) :
    Surroundings m where
  ask := ask host e agent.limits
  call run use := pure (agent.callTool run use)
  report number s := if quiet then pure () else tellStep host number s

/-- Tells how a run ended, and with which status code the program ends. -/
def tellOutcome (host : Host m) (json : Bool) : Except RunFailure RunResult → m UInt8
  | .ok r => do
    host.out ((if json then (RunResult.codec.toValue r).page else r.finalAnswer) ++ "\n")
    return 0
  | .error f => do
    if json then host.out ((FailureReport.codec.toValue f.report).page ++ "\n")
    else host.err s!"\nRun failed after {f.steps.length} steps: {f.failure.message}\n"
    return if f.failure.kind = .cancelled then 130 else 1

/-- Lets a model draw a diagram. -/
def run (host : Host m) (environment : Dotenv.Variables) (config : Option String) (order : Order) :
    Task m UInt8 := do
  let s ← loadSettings host environment config order.overrides
  orFail s.limits.check
  let e := s.tune (← orFailTo "could not resolve an LLM provider" (endpoint environment s))
  orFail e.check
  let agent : Agent := ⟨← orFail (Registry.ofList [Diagram.tool]), s.limits, e.label⟩
  let startedAt ← host.now
  let start := Run.start agent (← host.freshId) order.task false
  let ended ←
    .lift (start.drive (surroundings host e agent order.json) agent agent.limits.responses)
  let finishedAt ← host.now
  match Diagram.lastDrawn (inputsOf Diagram.toolName ended.invocations) with
  | some svg => save host order.output svg
  | none => pure ()
  match ended.outcome? agent startedAt finishedAt with
  | some outcome => .lift (tellOutcome host order.json outcome)
  | none => return 1

/-- Carries out a command. -/
def carryOut (host : Host m) (environment : Dotenv.Variables) (line : CommandLine) : Task m UInt8 :=
  match line.command with
  | .run order => run host environment line.config order
  | .providers provider => providers host environment line.config provider
  | .render file output => render host file output

/-- Does what the words of the command line ask for; the result is the status code. -/
def perform (host : Host m) (words : List String) : m UInt8 := do
  let environment ← loadVariables host
  match CommandLine.parse words with
  | .ok line =>
    match ← (carryOut host environment line).run with
    | .ok status => return status
    | .error trouble => do
      host.err trouble.report
      return 1
  | .error .help => do
    host.out usageText
    return 0
  | .error .version => do
    host.out versionText
    return 0
  | .error .misuse => do
    host.err usageText
    return 2

end Draftsman.Program
