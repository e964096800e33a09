/-
What is left of a run is read back.

The steps of a run, the messages of its conversation, its result and the report of its
failure are written as JSON, and read back as they were, with all their steps in order and
whatever their strings hold.  What does not fit is left out by the types that hold it: numbers
that count things fit in 64 bits, and points in time are ones that can be written.  More
texts are read than are written; but whatever is read from them fits, so that it makes no
difference whether a text or what it was rewritten as is kept.
-/
import Draftsman.Agent.Message
import Draftsman.Proofs.Json.Yields
import Draftsman.Proofs.Transcript.Instant
import Draftsman.Proofs.Transcript.Uuid
import Draftsman.Transcript.Report

namespace Draftsman

open Draftsman.Json

/-! ### Names, identifiers and points in time -/

theorem Role.codec_readsBack (role : Role) : Role.codec.ReadsBack role := by
  apply Codec.choice_readsBack
  cases role <;> decide

theorem RunStatus.codec_readsBack (status : RunStatus) : RunStatus.codec.ReadsBack status := by
  apply Codec.choice_readsBack
  cases status <;> decide

theorem FailureKind.codec_readsBack (kind : FailureKind) : FailureKind.codec.ReadsBack kind := by
  apply Codec.choice_readsBack
  cases kind <;> decide

theorem Uuid.codec_readsBack (u : Uuid) : Uuid.codec.ReadsBack u :=
  Codec.spelled_readsBack "a UUID string" u.parse_toText

theorem Instant.codec_readsBack {t : Instant} (valid : t.Valid) : Instant.codec.ReadsBack t :=
  Codec.spelled_readsBack "an RFC 3339 formatted date and time string" (parse_toText valid)

/-- Whatever point in time is read, it is one that can be written. -/
theorem Instant.codec_yields : Yields Instant.codec.read Instant.Valid := by
  intro text t rest read
  obtain ⟨s, parsed⟩ := Codec.spelled_yields "an RFC 3339 formatted date and time string" read
  exact valid_of_parse parsed

/-! ### Steps and messages -/

theorem Step.codec_readsBack (s : Step) : Step.codec.ReadsBack s := by
  have observation := Field.required_readsBack "observation" (Codec.string_readsBack s.observation)
  have input := Field.required_readsBack "actionInput" (Codec.string_readsBack s.input)
  have action := Field.required_readsBack "action" (Codec.string_readsBack s.action)
  have thought := Field.required_readsBack "thought" (Codec.string_readsBack s.thought)
  have row := (((Row.nil_readsBack.cons observation nofun).cons input (by decide)).cons action
    (by decide)).cons thought (by decide)
  exact (Codec.record_readsBack "AgentStep" row).map rfl

theorem Message.codec_readsBack (m : Message) : Message.codec.ReadsBack m := by
  have content := Field.default_readsBack "content" "" (Codec.string_readsBack m.content)
  have role := Field.required_readsBack "role" m.role.codec_readsBack
  have row := (Row.nil_readsBack.cons content nofun).cons role (by decide)
  exact (Codec.record_readsBack "ChatMessage" row).map rfl

/-! ### Results -/

/-- Results whose numbers and points in time are ones that there are. -/
structure RunResult.Fits (r : RunResult) : Prop where
  totalSteps : r.totalSteps ≤ maxWord
  startedAt : r.startedAt.Valid
  finishedAt : r.finishedAt.Valid

theorem RunResult.codec_readsBack {r : RunResult} (fits : r.Fits) :
    RunResult.codec.ReadsBack r := by
  have finishedAt := Field.required_readsBack "finishedAt" (Instant.codec_readsBack fits.finishedAt)
  have startedAt := Field.required_readsBack "startedAt" (Instant.codec_readsBack fits.startedAt)
  have provider := Field.required_readsBack "provider" (Codec.string_readsBack r.provider)
  have totalSteps := Field.required_readsBack "totalSteps" (Codec.count_readsBack fits.totalSteps)
  have finalAnswer := Field.required_readsBack "finalAnswer" (Codec.string_readsBack r.finalAnswer)
  have steps := Field.required_readsBack "steps"
    (Codec.list_readsBack fun s (_ : s ∈ r.steps) => s.codec_readsBack)
  have runId := Field.required_readsBack "runId" r.runId.codec_readsBack
  have row := ((((((Row.nil_readsBack.cons finishedAt nofun).cons startedAt (by decide)).cons
    provider (by decide)).cons totalSteps (by decide)).cons finalAnswer (by decide)).cons steps
    (by decide)).cons runId (by decide)
  exact (Codec.record_readsBack "AgentResult" row).map rfl

/-- Whatever result is read fits. -/
theorem RunResult.codec_yields : Yields RunResult.codec.read RunResult.Fits := by
  have finishedAt := Field.required_yields "finishedAt" Instant.codec_yields
  have startedAt := Field.required_yields "startedAt" Instant.codec_yields
  have totalSteps := Field.required_yields "totalSteps" (Codec.natural_yields "usize" maxWord)
  have row := ((((((Row.nil_yields (P := fun _ => True) trivial).cons finishedAt).cons
    startedAt).cons (Field.required_any "provider" .string)).cons totalSteps).cons
    (Field.required_any "finalAnswer" .string)).cons
    (Field.required_any "steps" (.list Step.codec)) |>.cons
    (Field.required_any "runId" Uuid.codec)
  refine (Codec.record_yields "AgentResult" row).map _ ?_
  rintro ⟨runId, steps, finalAnswer, totalSteps, provider, startedAt, finishedAt, _⟩
  rintro ⟨-, -, -, count, -, started, finished, -⟩
  exact ⟨count, started, finished⟩

/-! ### Reports -/

/-- Reports whose count of steps is a number that there is. -/
def FailureReport.Fits (r : FailureReport) : Prop := r.totalSteps ≤ maxWord

theorem FailureReport.codec_readsBack {r : FailureReport} (fits : r.Fits) :
    FailureReport.codec.ReadsBack r := by
  have iterations := Field.required_readsBack "iterations" (Codec.word32_readsBack r.iterations)
  have provider := Field.required_readsBack "provider" (Codec.string_readsBack r.provider)
  have totalSteps := Field.required_readsBack "totalSteps" (Codec.count_readsBack fits)
  have steps := Field.required_readsBack "steps"
    (Codec.list_readsBack fun s (_ : s ∈ r.steps) => s.codec_readsBack)
  have message := Field.required_readsBack "message" (Codec.string_readsBack r.message)
  have kind := Field.required_readsBack "kind" r.kind.codec_readsBack
  have status := Field.required_readsBack "status" r.status.codec_readsBack
  have runId := Field.required_readsBack "runId" r.runId.codec_readsBack
  have row := (((((((Row.nil_readsBack.cons iterations nofun).cons provider (by decide)).cons
    totalSteps (by decide)).cons steps (by decide)).cons message (by decide)).cons kind
    (by decide)).cons status (by decide)).cons runId (by decide)
  exact (Codec.record_readsBack "FailureReport" row).map rfl

/-- Whatever report is read fits. -/
theorem FailureReport.codec_yields : Yields FailureReport.codec.read FailureReport.Fits := by
  have totalSteps := Field.required_yields "totalSteps" (Codec.natural_yields "usize" maxWord)
  have row := (((((((Row.nil_yields (P := fun _ => True) trivial).cons
    (Field.required_any "iterations" .word32)).cons (Field.required_any "provider" .string)).cons
    totalSteps).cons (Field.required_any "steps" (.list Step.codec))).cons
    (Field.required_any "message" .string)).cons
    (Field.required_any "kind" FailureKind.codec)).cons
    (Field.required_any "status" RunStatus.codec) |>.cons
    (Field.required_any "runId" Uuid.codec)
  refine (Codec.record_yields "FailureReport" row).map _ ?_
  rintro ⟨runId, status, kind, message, steps, totalSteps, provider, iterations, _⟩
  rintro ⟨-, -, -, -, -, count, -, -, -⟩
  exact count

/-! ### What is left of a run -/

/--
**Nothing of what is left of a run is lost when it is written as JSON.**  Identifiers are told
by their texts, and so are all points in time but those that no text spells.  Hence a step, a
message, a result or a report is read back as it was written, if its numbers and its points in
time are ones that there are; those of any text that is read are, whatever form it has; and a
text that was read and written once stays as it is when that is done again.
-/
theorem transcripts_lossless :
    (∀ u : Uuid, Uuid.parse u.toText = .ok u) ∧
    (∀ t : Instant, Instant.parse t.toText = .ok t ↔ t.Valid) ∧
    Step.codec.Lossless (fun _ => True) ∧ Message.codec.Lossless (fun _ => True) ∧
    RunResult.codec.Lossless RunResult.Fits ∧ FailureReport.codec.Lossless FailureReport.Fits :=
  ⟨Uuid.parse_toText, Instant.parse_toText_iff,
    .of_yields (fun s _ => s.codec_readsBack) (yields_of_forall (fun _ => trivial) _),
    .of_yields (fun m _ => m.codec_readsBack) (yields_of_forall (fun _ => trivial) _),
    .of_yields (fun _ => RunResult.codec_readsBack) RunResult.codec_yields,
    .of_yields (fun _ => FailureReport.codec_readsBack) FailureReport.codec_yields⟩

/--
A result with an inserted second and with strings that need escapes is read back.  A message
that is written as an array, without its content, is rewritten as an object, and that stays.
-/
theorem transcripts_lossless_hostile :
    let result : RunResult := ⟨.nil, [⟨"\"\\", "a\nb", "\x00\t", "😀"⟩, .final "" "\x7b"], "\x7b", 2,
      "local", ⟨1483228799, 1500000000⟩, ⟨1483228800, 1⟩⟩
    result.Fits ∧ RunResult.codec.decode (RunResult.codec.encode result) = .ok result ∧
    Message.codec.rewrite "[ \"user\" ]" = .ok "\x7b\"role\":\"user\",\"content\":\"\"\x7d" ∧
    Message.codec.rewrite "\x7b\"role\":\"user\",\"content\":\"\"\x7d"
      = .ok "\x7b\"role\":\"user\",\"content\":\"\"\x7d" := by
  intro result
  have fits : result.Fits :=
    ⟨by decide, ⟨by decide +kernel, by decide⟩, ⟨by decide +kernel, by decide⟩⟩
  have rewritten : Message.codec.rewrite "[ \"user\" ]"
      = .ok "\x7b\"role\":\"user\",\"content\":\"\"\x7d" := by decide +kernel
  obtain ⟨-, -, -, messages, results, -⟩ := transcripts_lossless
  exact ⟨fits, results.decode_encode result fits, rewritten, messages.rewrite_again _ _ rewritten⟩

end Draftsman
