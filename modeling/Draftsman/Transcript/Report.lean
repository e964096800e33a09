/-
What is left of a run: its result, or a report of its failure.
-/
import Draftsman.Agent.Failure
import Draftsman.Transcript.Instant
import Draftsman.Transcript.Step

namespace Draftsman

open Draftsman.Json (Codec)

/-- How a run ended. -/
inductive RunStatus where
  | finished
  | failed
  deriving DecidableEq, Repr

/-- The name of a status. -/
def RunStatus.name : RunStatus → String
  | .finished => "finished"
  | .failed => "failed"

/-- The result of a run that came to its end. -/
structure RunResult where
  runId : Uuid
  steps : List Step
  finalAnswer : String
  totalSteps : Nat
  provider : String
  startedAt : Instant
  finishedAt : Instant
  deriving DecidableEq, Repr

/-- The steps in which a tool was to be used. -/
def RunResult.toolSteps (r : RunResult) : List Step := r.steps.filter fun s => !s.isFinal

/-- A run that ended without an answer, and the steps it had taken. -/
structure RunFailure where
  runId : Uuid
  failure : Failure
  steps : List Step
  provider : String
  iterations : UInt32
  deriving DecidableEq, Repr

/-- The message for a failed run. -/
def RunFailure.message (f : RunFailure) : String :=
  s!"agent run failed after {f.iterations} iterations: {f.failure.message}"

/-- The report of a failed run. -/
structure FailureReport where
  runId : Uuid
  status : RunStatus
  kind : FailureKind
  message : String
  steps : List Step
  totalSteps : Nat
  provider : String
  iterations : UInt32
  deriving DecidableEq, Repr

/-- The report of a failed run. -/
def RunFailure.report (f : RunFailure) : FailureReport where
  runId := f.runId
  status := .failed
  kind := f.failure.kind
  message := f.failure.message
  steps := f.steps
  totalSteps := f.steps.length
  provider := f.provider
  iterations := f.iterations

/-! ### As JSON -/

/-- Identifiers. -/
def Uuid.codec : Codec Uuid := .spelled "a UUID string" Uuid.parse Uuid.toText

/-- Points in time. -/
def Instant.codec : Codec Instant :=
  .spelled "an RFC 3339 formatted date and time string" Instant.parse Instant.toText

/-- Statuses, by name. -/
def RunStatus.codec : Codec RunStatus :=
  .choice [("finished", .finished), ("failed", .failed)] RunStatus.name

/-- Results. -/
def RunResult.codec : Codec RunResult :=
  (Codec.record "AgentResult" <|
    .cons (.required "runId" Uuid.codec) <|
    .cons (.required "steps" (.list Step.codec)) <|
    .cons (.required "finalAnswer" .string) <|
    .cons (.required "totalSteps" .count) <|
    .cons (.required "provider" .string) <|
    .cons (.required "startedAt" Instant.codec) <|
    .cons (.required "finishedAt" Instant.codec) .nil).map
    (fun (runId, steps, finalAnswer, totalSteps, provider, startedAt, finishedAt, _) =>
      ⟨runId, steps, finalAnswer, totalSteps, provider, startedAt, finishedAt⟩)
    (fun r =>
      (r.runId, r.steps, r.finalAnswer, r.totalSteps, r.provider, r.startedAt, r.finishedAt, ()))

/-- Reports. -/
def FailureReport.codec : Codec FailureReport :=
  (Codec.record "FailureReport" <|
    .cons (.required "runId" Uuid.codec) <|
    .cons (.required "status" RunStatus.codec) <|
    .cons (.required "kind" FailureKind.codec) <|
    .cons (.required "message" .string) <|
    .cons (.required "steps" (.list Step.codec)) <|
    .cons (.required "totalSteps" .count) <|
    .cons (.required "provider" .string) <|
    .cons (.required "iterations" .word32) .nil).map
    (fun (runId, status, kind, message, steps, totalSteps, provider, iterations, _) =>
      ⟨runId, status, kind, message, steps, totalSteps, provider, iterations⟩)
    (fun r =>
      (r.runId, r.status, r.kind, r.message, r.steps, r.totalSteps, r.provider, r.iterations, ()))

end Draftsman
