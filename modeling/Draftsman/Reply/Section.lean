/-
The sections of a reply.

A section is a heading and everything up to the next one.  The input of an action
may be written in a language of its own, in which lines that begin with a number
sign are remarks; so below the heading of an input such a line is no heading, even
if it looks like one.  The preamble and the sections, one after the other, are the
whole reply.
-/
import Draftsman.Reply.Heading

namespace Draftsman.Reply

open Draftsman.Text

/-- A heading and the text below it. -/
structure Section where
  label : Label
  /-- The heading as it is written. -/
  heading : List Char
  body : List Char
  deriving DecidableEq, Repr

/-- A section as it is written. -/
def Section.text (s : Section) : List Char := s.heading ++ s.body

/-- A reply cut into sections. -/
structure Outline where
  /-- What stands before the first heading. -/
  preamble : List Char
  sections : List Section
  deriving DecidableEq, Repr

/-- The heading of a line; `inInput` says that the line stands in the input of an action. -/
def headingIn? (inInput : Bool) (line : List Char) : Option Heading :=
  (heading? line).filter fun h => !(inInput && h.isRemark)

/-- The outline of lines; `inInput` says that the first one stands in the input of an action. -/
def outlineLines (inInput : Bool) : List (List Char) → Outline
  | [] => ⟨[], []⟩
  | line :: rest =>
    match headingIn? inInput line with
    | some h =>
      let below := outlineLines (h.label = .actionInput) rest
      ⟨[], ⟨h.label, h.text, h.rest ++ below.preamble⟩ :: below.sections⟩
    | none =>
      let below := outlineLines inInput rest
      ⟨line ++ below.preamble, below.sections⟩

/-- The outline of a reply. -/
def outline (reply : List Char) : Outline := outlineLines false (wholeLines reply)

/-- The body of the first section with a label. -/
def Outline.find? (o : Outline) (label : Label) : Option (List Char) :=
  (o.sections.find? fun s => s.label == label).map Section.body

/-- What stands before the first observation. -/
def Outline.beforeObservation (o : Outline) : List Char :=
  o.preamble ++ (o.sections.takeWhile fun s => s.label != .observation).flatMap Section.text

/--
A reply without any observation and what follows it.  A model may go on and invent
the answer of the tool it wants to use; that part is none of its reply.
-/
def stripObservation (reply : List Char) : List Char :=
  let o := outline reply
  if (o.find? .observation).isSome then trimEnd o.beforeObservation else reply

end Draftsman.Reply
