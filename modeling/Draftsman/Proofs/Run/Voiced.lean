/-
Which messages of the model are blank.

A reply that decides nothing is kept only if there is something to keep.  A reply that
uses a tool is kept in any case, and it is cut before its first observation; if it begins
with the observation, and acts only after it, there is nothing left.  Providers refuse
conversations with blank messages.  Such a query is mute, and mute queries are the only
way in which a blank message of the model comes into a conversation.
-/
import Draftsman.Proofs.Run.Conversation
import Draftsman.Proofs.Reply.Section

namespace Draftsman

open Draftsman.Text
open Draftsman.Reply (outline)

/-- Whether a reply begins with an observation, apart from blanks. -/
def opensWithObservation (reply : String) : Bool :=
  isAllBlank (outline reply.toList).preamble &&
    (outline reply.toList).sections.head?.any fun s => s.label == .observation

/-- Whether nothing is left of a reply that is kept. -/
def Query.isMute : Query → Bool
  | .acted reply _ => opensWithObservation reply
  | _ => false

/-- Whether no message of the model in a conversation is blank. -/
def Voiced (messages : List Message) : Prop :=
  ∀ m ∈ messages, m.role = .assistant → blankString m.content = false

theorem blankString_trimmed (text : String) : blankString (trimmed text) = blankString text := by
  rw [blankString, trimmed, String.toList_ofList, isAllBlank, trim_trim]
  rfl

/-- A reply that decides something has a section. -/
theorem sections_ne_nil {reply : String} {decided : Reply.Decision}
    (said : Reply.decision reply = .ok decided) : (outline reply.toList).sections ≠ [] := by
  intro none
  simp [Reply.decision, Reply.Outline.decision, Reply.Outline.find?, none] at said

/-- Nothing is left of a reply that decides something exactly if it begins with an observation. -/
theorem blankString_keptReply {reply : String} {decided : Reply.Decision}
    (said : Reply.decision reply = .ok decided) :
    blankString (Run.keptReply reply) = opensWithObservation reply := by
  obtain ⟨s, rest, sections⟩ := List.exists_cons_of_ne_nil (sections_ne_nil said)
  have kept : blankString (Run.keptReply reply)
      = isAllBlank (outline reply.toList).beforeObservation := by
    rw [Run.keptReply, blankString_trimmed, blankString, String.toList_ofList, isAllBlank,
      Reply.trim_stripObservation]
    rfl
  rw [kept, Bool.eq_iff_iff, isAllBlank_iff, Reply.blank_beforeObservation_iff,
    opensWithObservation, Bool.and_eq_true, isAllBlank_iff, sections]
  simp

variable {agent : Agent} {id : Uuid} {task : String}

/-- A query adds a blank message of the model exactly if it is mute. -/
theorem voiced_messages {query : Query}
    (chosen : ∀ reply step, query = .acted reply step → ∃ decided,
      Reply.decision reply = .ok decided) :
    Voiced query.messages ↔ query.isMute = false := by
  cases query with
  | silent => exact iff_of_true nofun rfl
  | unread reply =>
    refine iff_of_true ?_ rfl
    rw [Query.messages]
    by_cases blank : blankString reply = true
    · simp [Voiced, blank]
    · simp [Voiced, blank, blankString_trimmed]
  | acted reply step =>
    obtain ⟨decided, said⟩ := chosen reply step rfl
    simp [Voiced, Query.messages, Query.isMute, ← blankString_keptReply said, Run.keptReply]

/--
**A message of the model is blank only after a query that is mute.**  For every run the
model finds something in all the messages that are said to be its own exactly if none of
the replies that used a tool, before the last conversation, begins with an observation.
-/
theorem conversations_voiced_iff {events : List Event} {run : Run}
    (c : Course agent id task events run) :
    (∀ conversation ∈ run.conversations, Voiced conversation) ↔
      ∀ query ∈ (queries (answers events) run.steps).take (run.conversations.length - 1),
        query.isMute = false := by
  obtain ⟨rounds, h⟩ := c.accountedBy
  have first : Voiced (opening agent task) :=
    fun m mem said => absurd said (role_opening m mem)
  refine (c.forall_messages_iff first).trans (forall₂_congr fun query mem => ?_)
  refine voiced_messages fun reply step same => ?_
  have used : .acted reply step ∈ queriesOf rounds :=
    h.queries_eq ▸ same ▸ List.mem_of_mem_take mem
  exact ⟨_, chosen_queriesOf used⟩

/-- Something is left of a reply that acts before it makes up an observation. -/
theorem conversations_voiced_iff_look :
    ∃ run, Course (.withoutTools 3) .nil "draw"
        [.model (.returned (.ok "Action: look\nObservation: a cat") false),
          .model (.timedOut false)] run ∧
      run.conversations.length = 2 ∧
      ∀ conversation ∈ run.conversations, Voiced conversation := by
  have c : Course (.withoutTools 3) .nil "draw"
      [.model (.returned (.ok "Action: look\nObservation: a cat") false),
        .model (.timedOut false)] _ :=
    ((Course.start false).model rfl
      (.returned (.ok "Action: look\nObservation: a cat") false)).model rfl (.timedOut false)
  refine ⟨_, c, rfl, (conversations_voiced_iff c).mpr ?_⟩
  intro query mem
  rw [List.mem_singleton.mp mem]
  rfl

/-- Nothing is left of one that makes up an observation and acts then. -/
theorem not_conversations_voiced :
    ¬ ∀ (agent : Agent) (id : Uuid) (task : String) (events : List Event) (run : Run),
      Course agent id task events run →
      ∀ conversation ∈ run.conversations, Voiced conversation := by
  intro claimed
  have c : Course (.withoutTools 3) .nil "draw"
      [.model (.returned (.ok "Observation: a cat\nAction: look") false),
        .model (.timedOut false)] _ :=
    ((Course.start false).model rfl
      (.returned (.ok "Observation: a cat\nAction: look") false)).model rfl (.timedOut false)
  have voiced := claimed _ _ _ _ _ c _ (List.mem_cons_of_mem _ List.mem_cons_self)
    ⟨.assistant, ""⟩ (List.mem_cons_of_mem _ (List.mem_cons_of_mem _ List.mem_cons_self)) rfl
  cases voiced

end Draftsman
