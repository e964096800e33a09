/-
Settings written as a TOML document.

A document has two tables, one for runs and one for the service.  Each may be
written under a header, as entries with dotted keys, as a table on one line, or as
an array of its values in their order.  No other key is allowed, nothing may be set
twice, and every value has to be of the kind of its setting.
-/
import Draftsman.Settings.Basic
import Draftsman.Toml.Statement

namespace Draftsman.Settings

open Draftsman.Toml (Path Value Statement)

/-! ### The kinds of settings -/

/-- A number of `bits` bits. -/
def wordOf (bits : Nat) : Value → Option Nat
  | .integer n => if 0 ≤ n ∧ n.toNat < Nat.pow 2 bits then some n.toNat else none
  | _ => none

/-- A number of 32 bits. -/
def word32Of (v : Value) : Option UInt32 := (wordOf 32 v).map UInt32.ofNat

/-- A number of 64 bits. -/
def word64Of (v : Value) : Option UInt64 := (wordOf 64 v).map UInt64.ofNat

/-- A number with or without a fraction. -/
def realOf : Value → Option Float32
  | .float x => some x.toFloat32
  | .integer n => some (Float32.ofInt n)
  | _ => none

/-- A string. -/
def textOf : Value → Option String
  | .string s => some s
  | _ => none

/-! ### Tables -/

/-- A setting of a table: its key, and what its value does to the table. -/
structure Slot (σ : Type) where
  key : String
  put : Value → σ → Option σ

/-- The settings of runs, in their order. -/
def agentSlots : List (Slot AgentSettings) :=
  [⟨"max_iterations", fun v s => do some { s with maxIterations := some (← word32Of v) }⟩,
    ⟨"provider_timeout_secs", fun v s => do some { s with providerTimeout := some (← word64Of v) }⟩,
    ⟨"tool_timeout_secs", fun v s => do some { s with toolTimeout := some (← word64Of v) }⟩,
    ⟨"temperature", fun v s => do some { s with temperature := some (← realOf v) }⟩,
    ⟨"max_tokens", fun v s => do some { s with maxTokens := some (← word32Of v) }⟩,
    ⟨"instructions", fun v s => do some { s with instructions := some (← textOf v) }⟩]

/-- The settings of the service, in their order. -/
def providerSlots : List (Slot ServiceSettings) :=
  [⟨"name", fun v s => do some { s with name := some (← textOf v) }⟩,
    ⟨"model", fun v s => do some { s with model := some (← textOf v) }⟩,
    ⟨"base_url", fun v s => do some { s with baseUrl := some (← textOf v) }⟩]

/-- How a table came to be, which decides whether it may get further entries. -/
inductive Origin where
  /-- It is not there yet. -/
  | absent
  /-- By entries with dotted keys. -/
  | dotted
  /-- By a header. -/
  | header
  /-- By a value. -/
  | value
  deriving DecidableEq, Repr

/-- A table while a document is read. -/
structure Table (σ : Type) where
  origin : Origin
  /-- The keys that have been set. -/
  keys : List String
  content : σ

/-- The table with an entry; none if it may not have that entry. -/
def Table.put {σ : Type} (slots : List (Slot σ)) (key : String) (v : Value) (t : Table σ) :
    Option (Table σ) := do
  let slot ← slots.find? fun slot => slot.key == key
  if key ∈ t.keys then none
  else some { t with keys := key :: t.keys, content := ← slot.put v t.content }

/-- The table with an entry whose key has a single part. -/
def Table.putEntry {σ : Type} (slots : List (Slot σ)) (t : Table σ) (entry : Path × Value) :
    Option (Table σ) :=
  match entry.1 with
  | [key] => t.put slots key entry.2
  | _ => none

/-- The table with the items of an array as its values, as many as it has settings. -/
def Table.putItems {σ : Type} (slots : List (Slot σ)) (items : List Value) (t : Table σ) :
    Option (Table σ) :=
  (slots.zip items).foldlM (fun t (slot, item) => t.put slots slot.key item) t

/-- The table that is given as a value. -/
def Table.assign {σ : Type} (slots : List (Slot σ)) (v : Value) (t : Table σ) : Option (Table σ) :=
  if t.origin = .absent then
    let t := { t with origin := .value }
    match v with
    | .table entries => entries.foldlM (Table.putEntry slots) t
    | .array items => t.putItems slots items
    | _ => none
  else none

/-- The table after its header. -/
def Table.open? {σ : Type} (t : Table σ) : Option (Table σ) :=
  if t.origin = .absent then some { t with origin := .header } else none

/-- The table with an entry that names it by a dotted key. -/
def Table.putDotted {σ : Type} (slots : List (Slot σ)) (path : Path) (v : Value) (t : Table σ) :
    Option (Table σ) :=
  match path with
  | [] => t.assign slots v
  | [key] =>
    if t.origin = .absent ∨ t.origin = .dotted then
      { t with origin := .dotted }.put slots key v
    else none
  | _ => none

/-! ### Documents -/

/-- Which table the entries of a line belong to. -/
inductive Place where
  | root
  | agent
  | provider
  deriving DecidableEq, Repr

/-- A document while it is read. -/
structure Document where
  place : Place
  agent : Table AgentSettings
  provider : Table ServiceSettings

/-- The document of which nothing has been read. -/
def Document.empty : Document :=
  ⟨.root, ⟨.absent, [], unset.agent⟩, ⟨.absent, [], unset.provider⟩⟩

/-- The document after an entry. -/
def Document.put (d : Document) (path : Path) (v : Value) : Option Document :=
  match d.place, path with
  | .root, "agent" :: rest => do some { d with agent := ← d.agent.putDotted agentSlots rest v }
  | .root, "provider" :: rest => do
    some { d with provider := ← d.provider.putDotted providerSlots rest v }
  | .root, _ => none
  | .agent, _ => do some { d with agent := ← d.agent.putEntry agentSlots (path, v) }
  | .provider, _ => do some { d with provider := ← d.provider.putEntry providerSlots (path, v) }

/-- The document after a statement. -/
def Document.add (d : Document) : Statement → Option Document
  | .entry path v => d.put path v
  | .header ["agent"] => do some { d with place := .agent, agent := ← d.agent.open? }
  | .header ["provider"] => do some { d with place := .provider, provider := ← d.provider.open? }
  | .header _ => none
  | .itemHeader _ => none

/-- The settings that a text spells. -/
def ofText (text : String) : Except Failure Settings :=
  match (Toml.statements text).bind fun ss => ss.foldlM Document.add Document.empty with
  | some d => .ok ⟨d.agent.content, d.provider.content⟩
  | none => .error .settingsText

end Draftsman.Settings
