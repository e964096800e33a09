/-
What becomes of a registry while it is used.

Tools are registered and called in any order, and both may fail.  Whatever has happened, the
names in a registry are different from one another, and they are those of the tools that were
registered, in the order in which that succeeded (`run_tools`).  A call reaches the tool that
was offered first under its name, and no other, or none at all if there is none (`run_find?`,
`run_log`).

A registry might as well keep what it knows twice, a list of the names for their order and a
table of the tools by their names (`Ledger`).  Every operation then has to write into both,
and each one reads only one of them.  `Mirrors` is what the two have to do with one another
and with the registry; every operation preserves it, and everything that can be asked about
tools has the same answer in both.
-/
import Mathlib.Data.List.Basic
import Std.Data.HashMap.Lemmas
import Draftsman.Proofs.Agent.Registry

namespace Draftsman.Registry

open Draftsman.Text (isBlank)

/-! ### A registry in use -/

/-- Something that is done with a registry. -/
inductive Act where
  | register (tool : Tool)
  | dispatch (name input : String)

/-- What came of it; there is nothing to return when a tool is registered. -/
abbrev Outcome := Except Failure (Option String)

/-- A registry, and the calls that were made of its tools. -/
structure Desk where
  registry : Registry
  log : List Invocation

/-- No tools, and no calls. -/
def Desk.opened : Desk := ⟨empty, []⟩

/-- Does something, and notes the call if one is made. -/
def Desk.step (d : Desk) : Act → Desk × Outcome
  | .register tool =>
    match d.registry.register tool with
    | .ok registry => ({ d with registry }, .ok none)
    | .error failure => (d, .error failure)
  | .dispatch name input =>
    let made := (d.registry.call? d.log name input).toList.map fun _ => (name, input)
    ({ d with log := d.log ++ made }, (d.registry.dispatch d.log name input).map some)

/-- Does one thing after the other; each is kept together with what came of it. -/
def Desk.run (d : Desk) : List Act → Desk × List (Act × Outcome)
  | [] => (d, [])
  | act :: rest =>
    let (next, outcome) := d.step act
    let (last, entries) := next.run rest
    (last, (act, outcome) :: entries)

/-- The tool that was registered, if one was. -/
def registered? : Act × Outcome → Option Tool
  | (.register tool, .ok _) => some tool
  | _ => none

/-- The call that was made, if the tool was known. -/
def called? : Act × Outcome → Option Invocation
  | (.dispatch _ _, .error (.unknownTool _)) => none
  | (.dispatch name input, _) => some (name, input)
  | _ => none

/-- The tool that is to be registered, if its name is one. -/
def offered? : Act → Option Tool
  | .register tool => if isName tool.name then some tool else none
  | .dispatch _ _ => none

/-! ### One thing that is done -/

/-- What becomes of a tool that is to be registered. -/
inductive Desk.Registers (d : Desk) (tool : Tool) : Prop where
  /-- Its name is none, or is taken; nothing has changed. -/
  | refused (failure : Failure)
      (unfit : isName tool.name = false ∨ d.registry.contains tool.name = true)
      (same : d.step (.register tool) = (d, .error failure))
  /-- It comes last. -/
  | added (named : isName tool.name = true) (fresh : d.registry.contains tool.name = false)
      (next : d.step (.register tool) =
        ({ d with registry := ⟨d.registry.tools ++ [tool]⟩ }, .ok none))

/-- What becomes of a call, given the tool that the name means. -/
inductive Desk.Dispatches (d : Desk) (name input : String) : Option Tool → Prop where
  /-- There is no such tool; nothing is called. -/
  | unknown (same : d.step (.dispatch name input) = (d, .error (.unknownTool name))) :
      Dispatches d name input none
  /-- The tool is called, once and with that input, and what it returns is the outcome. -/
  | reached (tool : Tool)
      (next : d.step (.dispatch name input) =
        ({ d with log := d.log ++ [(name, input)] },
          ((tool.call (inputsOf name d.log) input).value.mapError
            fun fault => .toolFailed name fault.message).map some)) :
      Dispatches d name input (some tool)

section Step

variable (d : Desk)

theorem Desk.registers (tool : Tool) : d.Registers tool := by
  have step : d.step (.register tool) = match d.registry.register tool with
    | .ok registry => ({ d with registry }, .ok none)
    | .error failure => (d, .error failure) := rfl
  unfold Registry.register at step
  by_cases named : isName tool.name = true
  · by_cases taken : d.registry.contains tool.name = true
    · exact .refused _ (.inr taken) (by simpa [named, taken] using step)
    · rw [Bool.not_eq_true] at taken
      exact .added named taken (by simpa [named, taken] using step)
  · rw [Bool.not_eq_true] at named
    exact .refused _ (.inl named) (by simpa [named] using step)

theorem Desk.dispatches (name input : String) :
    d.Dispatches name input (d.registry.find? name) := by
  cases found : d.registry.find? name with
  | none => exact .unknown (by simp [step, dispatch, call?, found, Except.map])
  | some tool => exact .reached tool (by simp [step, dispatch, call?, found])

end Step

/-- The tools are those that were registered, in the order in which that succeeded. -/
theorem Desk.step_tools (d : Desk) (act : Act) :
    (d.step act).1.registry.tools =
      d.registry.tools ++ (registered? (act, (d.step act).2)).toList := by
  cases act with
  | register tool =>
    cases d.registers tool with
    | refused failure _ same => simp [same, registered?]
    | added _ _ next => simp [next, registered?]
  | dispatch name input => exact (List.append_nil _).symm

/-- The calls are those for which there was a tool. -/
theorem Desk.step_log (d : Desk) (act : Act) :
    (d.step act).1.log = d.log ++ (called? (act, (d.step act).2)).toList := by
  cases act with
  | register tool =>
    cases d.registers tool with
    | refused failure _ same => simp [same, called?]
    | added _ _ next => simp [next, called?]
  | dispatch name input =>
    have dispatched := d.dispatches name input
    generalize d.registry.find? name = tool? at dispatched
    cases dispatched with
    | unknown same => simp [same, called?]
    | reached tool next =>
      rw [next]
      cases (tool.call (inputsOf name d.log) input).value with
      | ok text => rfl
      | error fault => rfl

/-- A call fails for want of a tool exactly if there is no tool with that name. -/
theorem Desk.unknown_iff (d : Desk) (name input : String) :
    (d.step (.dispatch name input)).2 = .error (.unknownTool name) ↔
      d.registry.contains name = false := by
  have dispatched := d.dispatches name input
  rw [Registry.contains]
  generalize d.registry.find? name = tool? at dispatched ⊢
  cases dispatched with
  | unknown same => simp [same]
  | reached tool next =>
    rw [next]
    cases (tool.call (inputsOf name d.log) input).value with
    | ok text => exact iff_of_false nofun nofun
    | error fault => exact iff_of_false nofun nofun

/-- A name means what it meant, or else the tool that is registered under it. -/
theorem Desk.step_find? (d : Desk) (act : Act) (name : String) :
    (d.step act).1.registry.find? name =
      (d.registry.find? name).or ((offered? act).toList.find? fun tool => tool.name == name) := by
  cases act with
  | register tool =>
    cases d.registers tool with
    | refused failure unfit same =>
      rw [same]
      rcases unfit with unnamed | taken
      · simp [offered?, unnamed]
      · -- The tool that has the name already goes before the one that is offered.
        by_cases meant : tool.name = name
        · rw [contains, meant, Option.isSome_iff_exists] at taken
          obtain ⟨first, found⟩ := taken
          rw [found, Option.some_or]
        · cases named : isName tool.name <;> simp [offered?, named, meant]
    | added named _ next =>
      rw [next]
      simp [offered?, named, find?]
  | dispatch name' input => simp [offered?, step]

theorem Desk.step_orderly {d : Desk} (orderly : d.registry.Orderly) (act : Act) :
    (d.step act).1.registry.Orderly := by
  cases act with
  | register tool =>
    rw [Desk.step]
    cases registered : d.registry.register tool with
    | ok r => exact orderly.register registered
    | error failure => exact orderly
  | dispatch name input => exact orderly

/-! ### Everything that is done -/

theorem filterMap_cons_eq {α β : Type} (f : α → Option β) (a : α) (as : List α) :
    (a :: as).filterMap f = (f a).toList ++ as.filterMap f := by
  simp only [List.filterMap_eq_flatMap_toList, List.flatMap_cons]

theorem Desk.run_cons (d : Desk) (act : Act) (rest : List Act) :
    d.run (act :: rest) =
      (((d.step act).1.run rest).1, (act, (d.step act).2) :: ((d.step act).1.run rest).2) := rfl

theorem Desk.run_tools (d : Desk) (acts : List Act) :
    (d.run acts).1.registry.tools = d.registry.tools ++ (d.run acts).2.filterMap registered? := by
  induction acts generalizing d with
  | nil => exact (List.append_nil _).symm
  | cons act rest ih =>
    rw [run_cons, ih, step_tools, List.append_assoc, filterMap_cons_eq]

theorem Desk.run_log (d : Desk) (acts : List Act) :
    (d.run acts).1.log = d.log ++ (d.run acts).2.filterMap called? := by
  induction acts generalizing d with
  | nil => exact (List.append_nil _).symm
  | cons act rest ih => rw [run_cons, ih, step_log, List.append_assoc, filterMap_cons_eq]

theorem Desk.run_find? (d : Desk) (acts : List Act) (name : String) :
    (d.run acts).1.registry.find? name =
      (d.registry.find? name).or
        ((acts.filterMap offered?).find? fun tool => tool.name == name) := by
  induction acts generalizing d with
  | nil => exact (Option.or_none ..).symm
  | cons act rest ih =>
    rw [run_cons, ih, step_find?, Option.or_assoc, ← List.find?_append, filterMap_cons_eq]

theorem Desk.run_orderly {d : Desk} (orderly : d.registry.Orderly) (acts : List Act) :
    (d.run acts).1.registry.Orderly := by
  induction acts generalizing d with
  | nil => exact orderly
  | cons act rest ih => exact ih (step_orderly orderly act)

/-! ### A registry that is kept twice -/

/-- What a registry knows, the order of the names and the tools by their names. -/
structure Ledger where
  order : List String
  tools : Std.HashMap String Tool

namespace Ledger

def opened : Ledger := ⟨[], ∅⟩

def contains (l : Ledger) (name : String) : Bool := l.tools.contains name

/-- The names in their order, with the descriptions of those that are in the table. -/
def descriptions (l : Ledger) : List (String × String) :=
  (l.order.filterMap fun name => l.tools[name]?).map fun tool => (tool.name, tool.description)

/-- Writes a tool into both, unless its name is no name or is taken. -/
def register (l : Ledger) (tool : Tool) : Ledger × Except Failure Unit :=
  if !isName tool.name then (l, .error (.invalidToolName tool.name))
  else if l.contains tool.name then (l, .error (.duplicateTool tool.name))
  else (⟨l.order ++ [tool.name], l.tools.insert tool.name tool⟩, .ok ())

/-- Calls the tool that is in the table. -/
def dispatch (l : Ledger) (log : List Invocation) (name input : String) : Except Failure String :=
  match l.tools[name]? with
  | none => .error (.unknownTool name)
  | some tool =>
    (tool.call (inputsOf name log) input).value.mapError fun fault =>
      .toolFailed name fault.message

/-- Nothing is written when a tool is called. -/
def step (l : Ledger) : Act → Ledger
  | .register tool => (l.register tool).1
  | .dispatch _ _ => l

/-- A registration that fails writes nothing. -/
theorem register_error {l : Ledger} {tool : Tool} {failure : Failure}
    (failed : (l.register tool).2 = .error failure) : (l.register tool).1 = l := by
  unfold register at failed ⊢
  split at failed
  · rw [if_pos ‹_›]
  · rw [if_neg ‹_›]
    split at failed
    · rw [if_pos ‹_›]
    · cases failed

/-- What is common to a ledger and a registry; it is all that can be asked of either. -/
structure Mirrors (l : Ledger) (r : Registry) : Prop where
  order : l.order = r.names
  tools : ∀ name, l.tools[name]? = r.find? name

theorem mirrors_opened : opened.Mirrors empty := ⟨rfl, fun _ => Std.HashMap.getElem?_empty⟩

section Mirrors

variable {l : Ledger} {r : Registry}

theorem Mirrors.contains (mirrors : l.Mirrors r) (name : String) :
    l.contains name = r.contains name := by
  rw [Ledger.contains, Std.HashMap.contains_eq_isSome_getElem?, mirrors.tools, Registry.contains]

/-- A tool is registered in both or in none, for the same reason. -/
theorem Mirrors.register (mirrors : l.Mirrors r) (tool : Tool) :
    (l.register tool).2 = (r.register tool).map fun _ => () := by
  rw [Ledger.register, mirrors.contains, Registry.register]
  split
  · rfl
  · split <;> rfl

/-- A tool that is called is the same in both. -/
theorem Mirrors.dispatch (mirrors : l.Mirrors r) (log : List Invocation) (name input : String) :
    l.dispatch log name input = r.dispatch log name input := by
  rw [Ledger.dispatch, mirrors.tools, Registry.dispatch, call?]
  cases r.find? name <;> rfl

/-- No name in the order is missing in the table. -/
theorem Mirrors.descriptions (mirrors : l.Mirrors r) (orderly : r.Orderly) :
    l.descriptions = r.descriptions := by
  have all : (l.order.filterMap fun name => l.tools[name]?) = r.tools := by
    rw [mirrors.order, names, List.filterMap_map]
    calc r.tools.filterMap ((fun name => l.tools[name]?) ∘ Tool.name)
        = r.tools.filterMap some := List.filterMap_congr fun tool mem =>
          (mirrors.tools tool.name).trans (orderly.find?_eq mem)
      _ = r.tools := List.filterMap_some
  rw [Ledger.descriptions, all, Registry.descriptions]

/-- The names in the order are those in the table. -/
theorem Mirrors.keys (mirrors : l.Mirrors r) (orderly : r.Orderly) :
    l.order.Perm l.tools.keys := by
  have distinct : l.order.Nodup := mirrors.order ▸ orderly.distinct
  rw [List.perm_ext_iff_of_nodup distinct Std.HashMap.nodup_keys]
  intro name
  rw [Std.HashMap.mem_keys, Std.HashMap.mem_iff_isSome_getElem?, mirrors.tools, mirrors.order,
    ← contains_iff, Registry.contains]

end Mirrors

/-- **The two copies never part**: what is written into them is written into the registry. -/
theorem Mirrors.step {l : Ledger} {d : Desk} (mirrors : l.Mirrors d.registry) (act : Act) :
    (l.step act).Mirrors (d.step act).1.registry := by
  cases act with
  | register tool =>
    rw [Ledger.step, Ledger.register, mirrors.contains]
    cases d.registers tool with
    | refused failure unfit same =>
      rw [same]
      rcases unfit with unnamed | taken
      · simpa [unnamed] using mirrors
      · cases named : isName tool.name <;> simpa [named, taken] using mirrors
    | added named fresh next =>
      have found := d.step_find? (.register tool)
      rw [next] at found ⊢
      simp only [named, fresh]
      refine ⟨by simp [names, mirrors.order], fun name => ?_⟩
      show (l.tools.insert tool.name tool)[name]? = _
      rw [Std.HashMap.getElem?_insert, mirrors.tools, found]
      by_cases meant : tool.name = name
      · subst meant
        rw [Registry.contains, Option.isSome_eq_false_iff, Option.isNone_iff_eq_none] at fresh
        simp [offered?, named, fresh]
      · simp [offered?, named, meant]
  | dispatch name input => exact mirrors

theorem Mirrors.run {l : Ledger} {d : Desk} (mirrors : l.Mirrors d.registry) (acts : List Act) :
    (acts.foldl Ledger.step l).Mirrors (d.run acts).1.registry := by
  induction acts generalizing l d with
  | nil => exact mirrors
  | cons act rest ih => exact ih (mirrors.step act)

end Ledger

/-! ### Whatever was done -/

/-- What is left of everything that was done, starting with nothing. -/
def Desk.after (acts : List Act) : Desk := (opened.run acts).1

/-- Everything that was done, with what came of it. -/
def Desk.history (acts : List Act) : List (Act × Outcome) := (opened.run acts).2

def Ledger.after (acts : List Act) : Ledger := acts.foldl step opened

/-- What a registry is after everything that was done, and so is one that is kept twice. -/
structure InOrder (acts : List Act) (d : Desk) (l : Ledger) : Prop where
  /-- The names are those of the tools that were registered, in the order of registration. -/
  order : l.order = ((Desk.history acts).filterMap registered?).map Tool.name
  distinct : l.order.Nodup
  /-- They are the names in the table, too, and each is that of the tool behind it. -/
  keys : l.order.Perm l.tools.keys
  named : ∀ name tool, l.tools[name]? = some tool →
    tool.name = name ∧ name ≠ "" ∧ ∀ c ∈ name.toList, isBlank c = false
  /-- No description is left out. -/
  described : l.descriptions =
    ((Desk.history acts).filterMap registered?).map fun tool => (tool.name, tool.description)
  counted : l.descriptions.length = l.order.length ∧ d.registry.tools.length = l.order.length
  /-- Whatever is asked of the registry, the one that is kept twice has the same answer. -/
  same_names : d.registry.names = l.order
  same_descriptions : d.registry.descriptions = l.descriptions
  same_contains : ∀ name, d.registry.contains name = l.contains name
  same_register : ∀ tool, (l.register tool).2 = (d.registry.register tool).map fun _ => ()
  same_dispatch : ∀ log name input,
    l.dispatch log name input = d.registry.dispatch log name input
  /-- Every call that reached a tool was made once, and there was no other. -/
  calls : d.log = (Desk.history acts).filterMap called?

/-- The name of a tool holds something, and nothing blank. -/
theorem seen_of_isName {name : String} (named : isName name = true) :
    name ≠ "" ∧ ∀ c ∈ name.toList, isBlank c = false := by
  rw [isName, Bool.and_eq_true, Bool.not_eq_true', Bool.not_eq_true'] at named
  refine ⟨?_, fun c mem => Bool.eq_false_iff.mpr (List.any_eq_false.mp named.2 c mem)⟩
  rintro rfl
  cases named.1

theorem inOrder_after (acts : List Act) :
    InOrder acts (Desk.after acts) (Ledger.after acts) := by
  have mirrors : (Ledger.after acts).Mirrors (Desk.after acts).registry :=
    Ledger.mirrors_opened.run acts
  have orderly : (Desk.after acts).registry.Orderly := Desk.run_orderly .empty acts
  have tools : (Desk.after acts).registry.tools = (Desk.history acts).filterMap registered? :=
    Desk.opened.run_tools acts
  have calls : (Desk.after acts).log = (Desk.history acts).filterMap called? :=
    Desk.opened.run_log acts
  have order : (Ledger.after acts).order = (Desk.after acts).registry.names := mirrors.order
  have described := mirrors.descriptions orderly
  exact {
    order := by rw [order, names, tools]
    distinct := order ▸ orderly.distinct
    keys := mirrors.keys orderly
    named := by
      intro name tool found
      rw [mirrors.tools] at found
      obtain rfl : tool.name = name := by simpa using List.find?_some found
      have mem : tool.name ∈ (Desk.after acts).registry.names :=
        List.mem_map_of_mem (List.mem_of_find?_eq_some found)
      exact ⟨rfl, seen_of_isName (orderly.named _ mem)⟩
    described := by rw [described, descriptions, tools]
    counted := by simp [described, order, descriptions, names]
    same_names := order.symm
    same_descriptions := described.symm
    same_contains := fun name => (mirrors.contains name).symm
    same_register := mirrors.register
    same_dispatch := mirrors.dispatch
    calls }

theorem Desk.after_find? (acts : List Act) (name : String) :
    (after acts).registry.find? name =
      (acts.filterMap offered?).find? fun tool => tool.name == name :=
  opened.run_find? acts name

/--
**A registry is in order whatever was done with it**, and one that is kept twice never
disagrees with itself.  The next tool is the last one, or leaves everything as it was; the
next call reaches the first tool that was offered under its name, or, exactly if the registry
has none, nothing.
-/
theorem in_order (acts : List Act) :
    InOrder acts (Desk.after acts) (Ledger.after acts) ∧
    (∀ tool, (Desk.after acts).Registers tool) ∧
    (∀ tool failure, ((Ledger.after acts).register tool).2 = .error failure →
      ((Ledger.after acts).register tool).1 = Ledger.after acts) ∧
    ∀ name input,
      (Desk.after acts).Dispatches name input
        ((acts.filterMap offered?).find? fun tool => tool.name == name) ∧
      (((Desk.after acts).step (.dispatch name input)).2 = .error (.unknownTool name) ↔
        (Desk.after acts).registry.contains name = false) := by
  refine ⟨inOrder_after acts, Desk.registers _, fun _ _ => Ledger.register_error, ?_⟩
  intro name input
  rw [← Desk.after_find?]
  exact ⟨Desk.dispatches _ name input, Desk.unknown_iff _ name input⟩

/-- The second tool of a name is not registered, and not called. -/
theorem in_order_look :
    let tool (text : String) : Tool := ⟨"look", "d", fun _ _ => .immediate (.ok text)⟩
    let blank : Tool := ⟨"two words", "d", fun _ _ => .immediate (.ok "")⟩
    let acts : List Act := [.dispatch "look" "w", .register (tool "first"), .register blank,
      .register (tool "second"), .dispatch "look" "x", .dispatch "words" "y"]
    InOrder acts (Desk.after acts) (Ledger.after acts) ∧
    (Desk.after acts).registry.names = ["look"] ∧ (Desk.after acts).log = [("look", "x")] ∧
    (Desk.history acts).map Prod.snd =
      [.error (.unknownTool "look"), .ok none, .error (.invalidToolName "two words"),
        .error (.duplicateTool "look"), .ok (some "first"), .error (.unknownTool "words")] :=
  ⟨(in_order _).1, by decide +kernel⟩

end Draftsman.Registry
