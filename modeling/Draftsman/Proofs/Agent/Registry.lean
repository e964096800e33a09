/-
What is in a registry.

A registry comes about by registering one tool after another, starting with none.  That
is all it takes for the names of its tools to be names, and to be different from one
another; no reply can therefore mean a tool by something that is not a name, such as the
action that goes with an answer.
-/
import Mathlib.Data.List.Nodup
import Draftsman.Agent.Tool
import Draftsman.Transcript.Step

namespace Draftsman.Registry

/-- Registries as they come about. -/
structure Orderly (r : Registry) : Prop where
  named : ∀ name ∈ r.names, isName name = true
  distinct : r.names.Nodup

theorem contains_iff (r : Registry) (name : String) :
    r.contains name = true ↔ name ∈ r.names := by
  unfold contains find? names
  rw [List.find?_isSome, List.mem_map]
  simp only [beq_iff_eq]

/-- A tool is registered only under a name that is one, and is not taken. -/
theorem register_ok {r r' : Registry} {tool : Tool} (h : r.register tool = .ok r') :
    isName tool.name = true ∧ tool.name ∉ r.names ∧ r' = ⟨r.tools ++ [tool]⟩ := by
  unfold register at h
  by_cases named : isName tool.name = true
  · by_cases taken : r.contains tool.name = true
    · simp [named, taken] at h
    · refine ⟨named, ?_, ?_⟩
      · rw [← contains_iff]
        exact taken
      · simpa [named, taken] using h.symm
  · simp [named] at h

theorem Orderly.empty : Orderly Registry.empty := ⟨nofun, List.nodup_nil⟩

theorem Orderly.register {r r' : Registry} (orderly : Orderly r) {tool : Tool}
    (h : r.register tool = .ok r') : Orderly r' := by
  obtain ⟨named, fresh, rfl⟩ := register_ok h
  have names : (⟨r.tools ++ [tool]⟩ : Registry).names = r.names ++ [tool.name] :=
    List.map_append ..
  refine ⟨?_, ?_⟩
  · intro name mem
    rw [names, List.mem_append, List.mem_singleton] at mem
    rcases mem with old | rfl
    · exact orderly.named name old
    · exact named
  · rw [names, List.nodup_append]
    refine ⟨orderly.distinct, by simp, ?_⟩
    intro old mem new same
    rw [List.mem_singleton.mp same]
    exact fun eq => fresh (eq ▸ mem)

/-- Tools are registered one after another. -/
theorem Orderly.foldlM {before after : Registry} (orderly : Orderly before) {tools : List Tool}
    (h : tools.foldlM Registry.register before = .ok after) :
    Orderly after ∧ after.tools = before.tools ++ tools := by
  induction tools generalizing before with
  | nil =>
    cases h
    exact ⟨orderly, (List.append_nil _).symm⟩
  | cons tool rest ih =>
    rw [List.foldlM_cons] at h
    cases one : before.register tool with
    | error failure =>
      rw [one] at h
      cases h
    | ok next =>
      rw [one] at h
      obtain ⟨further, tools⟩ := ih (orderly.register one) h
      obtain ⟨-, -, rfl⟩ := register_ok one
      rw [tools, List.append_assoc]
      exact ⟨further, rfl⟩

/-- **Every registry is orderly**, whatever tools it is made of. -/
theorem ofList_orderly {tools : List Tool} {r : Registry} (built : ofList tools = .ok r) :
    Orderly r := (Orderly.empty.foldlM built).1

/-- A registry has the tools that it was made of, in the order in which they were given. -/
theorem ofList_tools {tools : List Tool} {r : Registry} (built : ofList tools = .ok r) :
    r.tools = tools := (Orderly.empty.foldlM built).2

/-- No tool hides another one. -/
theorem Orderly.find?_eq {r : Registry} (orderly : Orderly r) {tool : Tool}
    (mem : tool ∈ r.tools) : r.find? tool.name = some tool := by
  cases found : r.find? tool.name with
  | none =>
    have missing := List.find?_eq_none.mp found tool mem
    exact absurd (beq_self_eq_true tool.name) missing
  | some other =>
    have named : other.name = tool.name := by simpa using List.find?_some found
    have among := List.mem_of_find?_eq_some found
    rw [List.inj_on_of_nodup_map orderly.distinct among mem named]

/-- The action that goes with an answer is not the name of a tool. -/
theorem Orderly.not_contains_finalAction {r : Registry} (orderly : Orderly r) :
    r.contains finalAction = false := by
  rw [Bool.eq_false_iff, ne_eq, contains_iff]
  intro mem
  have named := orderly.named finalAction mem
  cases named

end Draftsman.Registry
