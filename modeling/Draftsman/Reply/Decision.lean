/-
What a reply decides: to use a tool, or to conclude with an answer.

When a reply does both, the answer counts, so that no reply can keep a run going
that has come to its end.
-/
import Draftsman.Reply.Section

namespace Draftsman.Reply

open Draftsman.Text

/-- What a reply decides. -/
inductive Decision where
  /-- A tool is to be used, with an input. -/
  | act (thought tool input : String)
  /-- The task is done, and this is the answer. -/
  | conclude (thought answer : String)
  deriving DecidableEq, Repr

/-- Why a reply decides nothing. -/
inductive Fault where
  /-- There is neither an action nor a final answer. -/
  | noMarker
  /-- The action names no tool. -/
  | emptyAction
  /-- The final answer is blank. -/
  | emptyAnswer
  deriving DecidableEq, Repr

/-- The message for a fault. -/
def Fault.message : Fault → String
  | .noMarker => "no `Action:` or `Final Answer:` marker found"
  | .emptyAction => "`Action:` marker present but no tool name given"
  | .emptyAnswer => "`Final Answer:` marker present but the answer is empty"

/-! ### The name of a tool -/

/-- Whether a character only decorates the name of a tool. -/
def decoratesName (c : Char) : Bool :=
  c == '`' || c == '"' || c == '\'' || c == '*' || c == '[' || c == ']' || c == '(' || c == ')'

/-- Whether a character at the end of a name ends the line rather than the name. -/
def endsName (c : Char) : Bool := c == '.' || c == ':' || c == ','

/-- The name of a tool, without what a model writes around it. -/
def cleanName (text : List Char) : List Char :=
  trim (dropEnd endsName (dropEnd decoratesName (dropStart decoratesName (trim text))))

/-! ### The input of a tool -/

/-- Whether a quote stands in a text without a backslash before it. -/
def hasBareQuote (quote : Char) : (escaped : Bool) → List Char → Bool
  | _, [] => false
  | escaped, c :: rest =>
    if c = '\\' ∧ !escaped then hasBareQuote quote true rest
    else if c = quote ∧ !escaped then true
    else hasBareQuote quote false rest

/-- The three backquotes around a text that is fenced. -/
def fence : List Char := ['`', '`', '`']

/-- The text inside a fence, of which the opening has been dropped. -/
def insideFence (text : List Char) : List Char :=
  match cut '\n' text with
  | some (_, body) => (dropSuffix? fence (trimEnd body)).getD body
  | none => (dropSuffix? fence text).getD text

/-- A text without the fence around it, if it has one. -/
def unfenced (text : List Char) : List Char :=
  match dropPrefix? fence text with
  | some rest => trim (insideFence rest)
  | none => text

/-- The text between two quotes, if they are a pair. -/
def insideQuotes? (quote : Char) (text : List Char) : Option (List Char) := do
  let inner ← dropLast? quote (← dropPrefix? [quote] text)
  if hasBareQuote quote false inner then none else some inner

/-- A text without the quotes around it, if it has some. -/
def unquoted (text : List Char) : List Char :=
  (['"', '\''].findSome? fun quote => insideQuotes? quote text).getD text

/-- The input of a tool, without what a model writes around it. -/
def cleanInput (text : List Char) : List Char := unquoted (unfenced (trim text))

/-! ### Actions and answers -/

/-- An action that is written like `tool[input]`. -/
def shorthand? (line : List Char) : Option (List Char × List Char) := do
  let (name, tail) ← cut '[' line
  let input ← dropLast? ']' tail
  if isAllBlank name then none else some (name, input)

/-- The first line of a text, without blanks around it, and what follows that line. -/
def firstLine (text : List Char) : List Char × List Char :=
  match cut '\n' text with
  | some (first, rest) => (trim first, rest)
  | none => (text, [])

/-- The tool and the input of an action, given the section of its input if there is one. -/
def toolAndInput (body : List Char) (input : Option (List Char)) : List Char × List Char :=
  let (line, rest) := firstLine (trim body)
  match input with
  | some input => (cleanName line, cleanInput input)
  | none =>
    match shorthand? line with
    | some (name, input) => (cleanName name, cleanInput input)
    | none => (cleanName line, cleanInput rest)

/-- What the outline of a reply decides. -/
def Outline.decision (o : Outline) : Except Fault Decision :=
  let thought := String.ofList (trim ((o.find? .thought).getD o.preamble))
  match o.find? .finalAnswer with
  | some body =>
    let answer := trim body
    if answer.isEmpty then .error .emptyAnswer
    else .ok (.conclude thought (String.ofList answer))
  | none =>
    match o.find? .action with
    | none => .error .noMarker
    | some body =>
      let (tool, input) := toolAndInput body (o.find? .actionInput)
      if tool.isEmpty then .error .emptyAction
      else .ok (.act thought (String.ofList tool) (String.ofList input))

/-- What a reply decides. -/
def decision (reply : String) : Except Fault Decision := (outline reply.toList).decision

end Draftsman.Reply
