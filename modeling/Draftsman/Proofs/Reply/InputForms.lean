/-
The three ways to give a tool its input.

The input stands under a heading of its own, on the lines below the name of the tool, or in
brackets behind the name.  Each of these is taken apart in its own way: by heading, by line,
or by bracket.  What is read is the same, since each leaves the name as it is and hands on
the input with nothing but blanks lost at its ends, which cleaning would take away anyway.
So it does not matter either what the input looks like: it may be blank, put into quotes or
into a fence, and hold brackets of its own.
-/
import Draftsman.Proofs.Reply.Canonical

namespace Draftsman.Reply

open Draftsman.Text

/-! ### Names that are read as they stand -/

/-- Names that are read behind their heading as they stand, and in which no bracket opens. -/
structure Plain (name : List Char) : Prop where
  something : name ≠ []
  whole : '\n' ∉ name
  unopened : '[' ∉ name
  clean : cleanName name = name
  /-- The marks behind the heading of an action would hide this one. -/
  unmarked : name.head? ≠ some '_'

section Plain

variable {name : List Char}

theorem Plain.solid (plain : Plain name) : Solid name :=
  ⟨plain.something, ((cleanName_eq_self_iff name).mp plain.clean).1⟩

/-- The marks behind a heading end before a plain name, whatever follows the name. -/
theorem Plain.dropWhile_isMark (plain : Plain name) (rest : List Char) :
    (' ' :: (name ++ rest)).dropWhile isMark = name ++ rest := by
  have read := nameBehind_of_clean plain.clean plain.unmarked
  have unmarked : name.dropWhile isMark = name :=
    ((onlyDrops_dropStart isMark).eq_self onlyDrops_cleanName read).1
  have something : (name.dropWhile isMark).isEmpty = false := by
    rw [unmarked, List.isEmpty_eq_false_iff]
    exact plain.something
  rw [List.dropWhile_cons_of_pos (by decide), List.dropWhile_append, something, unmarked]
  rfl

end Plain

/-! ### What an action says by itself -/

/-- Blanks at the end of an input are taken away first. -/
theorem cleanInput_trimEnd (input : List Char) : cleanInput (trimEnd input) = cleanInput input := by
  rw [cleanInput, trim_trimEnd, ← cleanInput]

/-- Where no bracket opens, the name is the line, and the input is what is below it. -/
theorem toolAndInput_of_firstLine {body line rest : List Char}
    (first : firstLine (trim body) = (line, rest)) (unopened : '[' ∉ line) :
    toolAndInput body none = (cleanName line, cleanInput rest) := by
  rw [toolAndInput, first]
  simp only [shorthand?, cut_eq_none unopened, Option.bind_eq_bind, Option.bind_none]

/-- An input on the lines below the name is read. -/
theorem toolAndInput_below {name : List Char} (plain : Plain name) (input : List Char) :
    toolAndInput (name ++ '\n' :: input) none = (name, cleanInput input) := by
  have solid := plain.solid
  by_cases blank : Blank input
  · -- All that is below the name is lost with the blanks at the end.
    have feed : Blank ('\n' :: input) := List.forall_mem_cons.mpr ⟨rfl, blank⟩
    have first : firstLine (trim (name ++ '\n' :: input)) = (name, []) := by
      rw [trim_append_of_blank name feed, solid.whole, firstLine, cut_eq_none plain.whole]
    have nothing : cleanInput input = cleanInput [] := by
      rw [← cleanInput_trimEnd, (trimEnd_eq_nil_iff input).mpr blank]
    rw [toolAndInput_of_firstLine first plain.unopened, plain.clean, nothing]
  · have feed : ¬ Blank ('\n' :: input) := fun all => blank (List.forall_mem_cons.mp all).2
    have below : trimEnd ('\n' :: input) = '\n' :: trimEnd input :=
      trimEnd_append_of_not ['\n'] blank
    have kept : trim (name ++ '\n' :: input) = name ++ '\n' :: trimEnd input := by
      rw [trim, trimStart_append_of_not solid.not_blank, solid.start,
        trimEnd_append_of_not name feed, below]
    have first : firstLine (trim (name ++ '\n' :: input)) = (name, trimEnd input) := by
      rw [kept, firstLine, cut_append plain.whole]
      simp only [solid.whole]
    rw [toolAndInput_of_firstLine first plain.unopened, plain.clean, cleanInput_trimEnd]

/-- An input in brackets behind the name is read, and so are the brackets that it holds. -/
theorem toolAndInput_bracketed {name input : List Char} (plain : Plain name)
    (line : '\n' ∉ input) :
    toolAndInput (name ++ '[' :: (input ++ [']'])) none = (name, cleanInput input) := by
  have closed : Solid (name ++ '[' :: input ++ [']']) :=
    plain.solid.append ⟨by decide, by decide⟩ ('[' :: input)
  rw [List.append_assoc, List.cons_append] at closed
  have one : '\n' ∉ name ++ '[' :: (input ++ [']']) := by
    simp [plain.whole, line]
  have first : firstLine (trim (name ++ '[' :: (input ++ [']'])))
      = (name ++ '[' :: (input ++ [']']), []) := by
    rw [closed.whole, firstLine, cut_eq_none one]
  have named : isAllBlank name = false := by
    rw [← Bool.not_eq_true, isAllBlank_iff]
    exact plain.solid.not_blank
  have short : shorthand? (name ++ '[' :: (input ++ [']'])) = some (name, input) := by
    simp [shorthand?, cut_append plain.unopened, dropLast?, named]
  rw [toolAndInput, first]
  simp only [short, plain.clean]

/-- What a reply decides that is nothing but an action without a heading for its input. -/
theorem decision_action {reply : String} {body tool input : List Char}
    (fits : Part.Fits (.action, body)) (same : reply.toList ++ ['\n'] = written [(.action, body)])
    (call : toolAndInput (body.dropWhile isMark) none = (tool, input)) (named : tool ≠ []) :
    decision reply = .ok (.act "" (String.ofList tool) (String.ofList input)) := by
  have some_tool : tool.isEmpty = false := List.isEmpty_eq_false_iff.mpr named
  rw [decision_written (List.forall_mem_singleton.mpr fits) same]
  show (if (toolAndInput (body.dropWhile isMark) none).1.isEmpty then _
    else Except.ok (Decision.act (String.ofList (trim []))
      (String.ofList (toolAndInput (body.dropWhile isMark) none).1)
      (String.ofList (toolAndInput (body.dropWhile isMark) none).2))) = _
  rw [call, some_tool]
  rfl

/-! ### The three ways -/

/--
**It does not matter in which way a tool is given its input.**  Under a heading of its own,
on the lines below the name, or in brackets behind the name, if it is a single line: what is
read is the name as it stands, and the input without what a model writes around it.
-/
theorem decision_input_forms {name input : String} (plain : Plain name.toList)
    (unheaded : Unheaded false input.toList) :
    decision ("Action: " ++ name ++ "\nAction Input:\n" ++ input)
      = .ok (.act "" name (String.ofList (cleanInput input.toList))) ∧
    decision ("Action: " ++ name ++ "\n" ++ input)
      = .ok (.act "" name (String.ofList (cleanInput input.toList))) ∧
    ('\n' ∉ input.toList →
      decision ("Action: " ++ name ++ "[" ++ input ++ "]")
        = .ok (.act "" name (String.ofList (cleanInput input.toList)))) := by
  refine ⟨?_, ?_, fun line => ?_⟩
  · have call : decision ("Action: " ++ name ++ "\nAction Input:\n" ++ input) = _ :=
      decision_call plain.whole (fits_below .actionInput (unheaded.inInput true))
        (by simp [written, Label.title, Label.words])
    have named : name.toList.isEmpty = false := List.isEmpty_eq_false_iff.mpr plain.something
    have taken : ('\n' :: input.toList).dropWhile isMark = '\n' :: input.toList := rfl
    rw [call, nameBehind_of_clean plain.clean plain.unmarked, named, taken,
      cleanInput_cons_of_blank rfl, String.ofList_toList]
    rfl
  · have one : '\n' ∉ ' ' :: name.toList :=
      List.not_mem_cons_of_ne_of_not_mem (by decide) plain.whole
    have fits : Part.Fits (.action, ' ' :: (name.toList ++ '\n' :: input.toList)) := by
      have lines := wholeLines_ended one input.toList
      rw [List.cons_append] at lines
      rw [Part.Fits, lines]
      exact unheaded
    have same : ("Action: " ++ name ++ "\n" ++ input).toList ++ ['\n']
        = written [(.action, ' ' :: (name.toList ++ '\n' :: input.toList))] := by
      simp [written, Label.title, Label.words]
    have call := decision_action fits same
      (by rw [plain.dropWhile_isMark, toolAndInput_below plain]) plain.something
    rwa [String.ofList_toList] at call
  · have one : '\n' ∉ ' ' :: (name.toList ++ '[' :: (input.toList ++ [']'])) := by
      simp [plain.whole, line]
    have same : ("Action: " ++ name ++ "[" ++ input ++ "]").toList ++ ['\n']
        = written [(.action, ' ' :: (name.toList ++ '[' :: (input.toList ++ [']'])))] := by
      simp [written, Label.title, Label.words]
    have call := decision_action (fits_of_not_mem .action one) same
      (by rw [plain.dropWhile_isMark, toolAndInput_bracketed plain line]) plain.something
    rwa [String.ofList_toList] at call

/-- A quoted input that holds brackets, and a heading that is none at the beginning of a line. -/
theorem decision_input_forms_quoted :
    Plain "look: up".toList ∧ Unheaded false "  \"a[0]] Action: b\" ".toList ∧
    '\n' ∉ "  \"a[0]] Action: b\" ".toList ∧
    decision "Action: look: up\nAction Input:\n  \"a[0]] Action: b\" "
      = .ok (.act "" "look: up" "a[0]] Action: b") ∧
    decision "Action: look: up\n  \"a[0]] Action: b\" "
      = .ok (.act "" "look: up" "a[0]] Action: b") ∧
    decision "Action: look: up[  \"a[0]] Action: b\" ]"
      = .ok (.act "" "look: up" "a[0]] Action: b") := by
  have plain : Plain "look: up".toList :=
    { something := by decide
      whole := by decide
      unopened := by decide
      clean := by decide
      unmarked := by decide }
  have unheaded : Unheaded false "  \"a[0]] Action: b\" ".toList := by decide
  have line : '\n' ∉ "  \"a[0]] Action: b\" ".toList := by decide
  have forms := decision_input_forms plain unheaded
  exact ⟨plain, unheaded, line, forms.1, forms.2.1, forms.2.2 line⟩

end Draftsman.Reply
