/-
Tools that can be called by their names.

A registry refuses names that are empty or hold blanks.  The prompt lists the others to the
model just as they are, and asks for one of them behind `Action:`.  What is read there has
been cleaned, so a name with something at its ends that looks like decoration is not what
is read when it is written as the prompt asks for it; the tool is in the registry, and the
call does not find it.  Of all the names that a registry accepts, the ones that can be
called are the bare ones, and no others.
-/
import Draftsman.Proofs.Agent.Registry
import Draftsman.Proofs.Reply.Canonical

namespace Draftsman

open Draftsman.Text Draftsman.Reply

/-! ### Names that a registry accepts -/

/-- A name holds no blanks, and therefore none that would be trimmed. -/
theorem Registry.solid_of_isName {name : String} (named : isName name = true) :
    Solid name.toList ∧ '\n' ∉ name.toList := by
  rw [isName, Bool.and_eq_true, Bool.not_eq_true', Bool.not_eq_true'] at named
  have something : name.toList ≠ [] := by
    rw [ne_eq, String.toList_eq_nil_iff, ← String.isEmpty_iff, named.1]
    exact Bool.false_ne_true
  refine ⟨solid_of_seen something named.2, fun mem => ?_⟩
  exact absurd (List.any_eq_false.mp named.2 '\n' mem) (by decide)

/-- A tool is found under its name as soon as it is registered. -/
theorem Registry.register_find? {r r' : Registry} {tool : Tool}
    (registered : r.register tool = .ok r') : r'.find? tool.name = some tool := by
  obtain ⟨-, fresh, rfl⟩ := register_ok registered
  have missing : r.find? tool.name = none := by
    rw [← contains_iff] at fresh
    simpa [contains] using fresh
  show (r.tools ++ [tool]).find? _ = _
  rw [List.find?_append, show r.tools.find? _ = none from missing]
  simp

/-! ### Calls in the form that the prompt asks for -/

/--
**A tool can be called exactly if its name is bare.**  Every tool that is registered is
found under its name; but a call that is written as the prompt asks for it is read as a
call of that name only if nothing at its ends is taken for decoration.  The input makes no
difference to this, as long as none of its lines has a heading that is not a remark.
-/
theorem callable_iff_bare {r r' : Registry} {tool : Tool} (registered : r.register tool = .ok r')
    {input : String} (plain : Unheaded true input.toList) :
    r'.find? tool.name = some tool ∧
    ((∃ thought text, decision ("Action: " ++ tool.name ++ "\nAction Input: " ++ input)
        = .ok (.act thought tool.name text)) ↔ Bare tool.name.toList) := by
  refine ⟨Registry.register_find? registered, ?_⟩
  obtain ⟨named, -, -⟩ := Registry.register_ok registered
  obtain ⟨solid, line⟩ := Registry.solid_of_isName named
  rw [decision_call_beside line plain, ← nameBehind_eq_self_iff solid.whole]
  constructor
  · rintro ⟨thought, text, same⟩
    split at same
    · cases same
    · rw [Except.ok.injEq, Decision.act.injEq] at same
      have read := congrArg String.toList same.2.1
      rwa [String.toList_ofList] at read
  · intro read
    have something : tool.name.toList.isEmpty = false :=
      List.isEmpty_eq_false_iff.mpr solid.something
    rw [read, something, String.ofList_toList]
    exact ⟨"", _, rfl⟩

/-- An underscore inside a name is no decoration. -/
theorem callable_iff_bare_look_up :
    ∃ tool r, tool.name = "look_up" ∧ Registry.empty.register tool = .ok r ∧
      Unheaded true "_up_".toList ∧ r.find? "look_up" = some tool ∧
      ∃ thought text, decision "Action: look_up\nAction Input: _up_"
        = .ok (.act thought "look_up" text) := by
  have registered : Registry.empty.register
      ⟨"look_up", "d", fun _ _ => .immediate (.ok "up")⟩ = .ok _ := rfl
  have plain : Unheaded true "_up_".toList := by decide
  obtain ⟨found, called⟩ := callable_iff_bare registered plain
  exact ⟨_, _, rfl, registered, plain, found, called.mpr (by decide)⟩

/-- A registry accepts a name that begins with an underscore, and the model cannot use it. -/
theorem not_callable_of_register :
    ¬ ∀ (r r' : Registry) (tool : Tool), r.register tool = .ok r' →
      ∀ input : String, Unheaded false input.toList →
      ∃ thought text, decision ("Action: " ++ tool.name ++ "\nAction Input: " ++ input)
        = .ok (.act thought tool.name text) := by
  intro callable
  obtain ⟨thought, text, same⟩ := callable Registry.empty _
    ⟨"_look", "d", fun _ _ => .immediate (.ok "up")⟩ rfl "up" (by decide)
  have read : decision "Action: _look\nAction Input: up" = .ok (.act "" "look" "up") := by
    decide +kernel
  have other := read.symm.trans same
  rw [Except.ok.injEq, Decision.act.injEq] at other
  exact absurd other.2.1 (by decide)

end Draftsman
