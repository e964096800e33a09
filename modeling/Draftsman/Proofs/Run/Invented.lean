/-
Which invented observations the model gets to see again.

A model may write observations of its own.  A reply that uses a tool is cut before the
first of them, and only the part before it is kept.  Blanks around that part are taken
away, and by that an observation can come to light that was none before, but only where
the reply begins with it.  A reply that decides nothing is not cut at all.  Both are
queries that `invents`, and they are the only way in which the model comes to read an
observation in a message that is said to be its own.
-/
import Draftsman.Proofs.Reply.Trim
import Draftsman.Proofs.Run.Conversation

namespace Draftsman

open Draftsman.Text (trim trimmed blankString)
open Draftsman.Reply (outline)

/-- Whether a text has a section that is an observation. -/
def hasObservation (text : String) : Bool := ((outline text.toList).find? .observation).isSome

theorem hasObservation_iff (text : String) :
    hasObservation text = true ↔ .observation ∈ (outline text.toList).labels :=
  Reply.Outline.find?_isSome _ _

/-- Whether what is kept of a reply has a section that is an observation. -/
def Query.invents : Query → Bool
  | .silent => false
  | .unread reply => hasObservation (trimmed reply)
  | .acted reply _ => hasObservation (trimmed (String.ofList (outline reply.toList).preamble))

/-- What is kept of a reply that uses a tool shows an observation only if its preamble does. -/
theorem hasObservation_keptReply (reply : String) :
    hasObservation (Run.keptReply reply)
      = hasObservation (trimmed (String.ofList (outline reply.toList).preamble)) := by
  have before := Reply.outline_beforeObservation reply.toList
  have unobserved := Reply.unobserved_beforeObservation reply.toList
  rw [Bool.eq_iff_iff, hasObservation_iff, hasObservation_iff]
  simp only [Run.keptReply, trimmed, String.toList_ofList, Reply.trim_stripObservation]
  rw [Reply.observation_mem_trim_iff unobserved, before]

/-- Whether no message of the model in a conversation has an observation. -/
def Unobserved (messages : List Message) : Prop :=
  ∀ m ∈ messages, m.role = .assistant → hasObservation m.content = false

theorem unobserved_append (before after : List Message) :
    Unobserved (before ++ after) ↔ Unobserved before ∧ Unobserved after := List.forall_mem_append

/-- A query shows the model an observation of its own exactly if it invents one. -/
theorem unobserved_messages (query : Query) :
    Unobserved query.messages ↔ query.invents = false := by
  have user : ∀ content, Unobserved [⟨.user, content⟩] := by
    intro content m mem
    rw [List.mem_singleton.mp mem]
    rintro ⟨⟩
  have none : Unobserved [] := by rintro m ⟨⟩
  cases query with
  | silent => exact iff_of_true none rfl
  | unread reply =>
    rw [Query.messages, unobserved_append, and_iff_left (user _), Query.invents]
    by_cases blank : blankString reply = true
    · have empty : trimmed reply = "" := by
        rw [trimmed, List.isEmpty_iff.mp blank]
      rw [if_pos blank, empty]
      exact iff_of_true none rfl
    · rw [if_neg blank]
      simp [Unobserved]
  | acted reply step =>
    rw [Query.messages, ← List.singleton_append, unobserved_append, and_iff_left (user _),
      Query.invents, ← hasObservation_keptReply]
    simp [Unobserved, Run.keptReply]

variable {agent : Agent} {id : Uuid} {task : String}

theorem unobserved_conversationAfter (queries : List Query) :
    Unobserved (conversationAfter agent task queries)
      ↔ ∀ query ∈ queries, query.invents = false := by
  have first : Unobserved (opening agent task) :=
    fun m mem said => absurd said (role_opening m mem)
  rw [Unobserved, forall_conversationAfter_iff first]
  exact forall₂_congr fun query _ => unobserved_messages query

/--
**The model reads an observation of its own only after a query that invents one.**  For
every run the conversations that the model was sent are free of such observations exactly
if none of the queries before the last of them invents any.
-/
theorem conversations_unobserved_iff {events : List Event} {run : Run}
    (c : Course agent id task events run) :
    (∀ conversation ∈ run.conversations, Unobserved conversation) ↔
      ∀ query ∈ (queries (answers events) run.steps).take (run.conversations.length - 1),
        query.invents = false := by
  obtain ⟨rounds, h⟩ := c.accountedBy
  constructor
  · intro unobserved
    by_cases none : run.conversations.length = 0
    · rw [none]
      exact nofun
    · -- The last conversation holds what all the queries before it have added.
      have last : run.conversations.length - 1 < run.conversations.length := by omega
      have here := unobserved _ (List.getElem_mem last)
      rw [h.sent last] at here
      exact (unobserved_conversationAfter _).mp here
  · intro plain conversation mem
    obtain ⟨k, hk, rfl⟩ := List.getElem_of_mem mem
    rw [h.sent hk, unobserved_conversationAfter]
    intro query early
    have fewer : k ≤ run.conversations.length - 1 := by omega
    exact plain query (List.take_subset_take_left _ fewer early)

/-- A made-up observation behind an action does not come back to the model. -/
theorem conversations_unobserved_iff_look :
    ∃ run, Course (.withoutTools 3) .nil "draw"
        [.model (.returned (.ok "Action: look\nObservation: a cat") false),
          .model (.timedOut false)] run ∧
      run.conversations.length = 2 ∧
      ∀ conversation ∈ run.conversations, Unobserved conversation := by
  have c : Course (.withoutTools 3) .nil "draw"
      [.model (.returned (.ok "Action: look\nObservation: a cat") false),
        .model (.timedOut false)] _ :=
    ((Course.start false).model rfl
      (.returned (.ok "Action: look\nObservation: a cat") false)).model rfl (.timedOut false)
  refine ⟨_, c, rfl, (conversations_unobserved_iff c).mpr ?_⟩
  intro query mem
  rw [List.mem_singleton.mp mem]
  rfl

/-- One in a reply that decides nothing does. -/
theorem not_conversations_unobserved :
    ¬ ∀ (agent : Agent) (id : Uuid) (task : String) (events : List Event) (run : Run),
      Course agent id task events run →
      ∀ conversation ∈ run.conversations, Unobserved conversation := by
  intro claimed
  have c : Course (.withoutTools 3) .nil "draw"
      [.model (.returned (.ok "Hmm.\nObservation: made up") false), .model (.timedOut false)] _ :=
    ((Course.start false).model rfl
      (.returned (.ok "Hmm.\nObservation: made up") false)).model rfl (.timedOut false)
  have unobserved := claimed _ _ _ _ _ c _ (List.mem_cons_of_mem _ List.mem_cons_self)
    ⟨.assistant, "Hmm.\nObservation: made up"⟩
    (List.mem_cons_of_mem _ (List.mem_cons_of_mem _ List.mem_cons_self)) rfl
  cases unobserved

end Draftsman
