/-
Where each setting comes from, and where it goes.

The command line counts more than the environment, and the environment more than the file;
but not every setting can be set everywhere.  What holds in the end is told here for each
setting by itself (`Layers`), as the first of the places that may set it and does.  The
environment is the only place where something may go wrong, since a number of iterations must
be a number; what it sets besides has then been set, and the settings of runs are those of the
file.

Every setting has one use.  What nobody has set takes a value of its own there, and nowhere
before.
-/
import Draftsman.Settings.Basic
import Draftsman.Proofs.Provider.Keys

namespace Draftsman.ProviderSettings

/-! ### Services for which nothing is set -/

variable {s : ProviderSettings} {e : Endpoint}

/-- The model that a service has if none is set. -/
def usualModel (name : String) : String :=
  if name = localName then "qwen2.5:latest"
  else ((backends.find? fun b => b.name == name).map Backend.defaultModel).getD name

/-- The address that a service has if none is set; one that nobody has heard of has none. -/
def usualUrl? (name : String) : Option String :=
  if name = localName then some "http://localhost:11434/v1"
  else (backends.find? fun b => b.name == name).map Backend.baseUrl

theorem Chosen.model_eq (chosen : s.Chosen e) : e.model = s.model.getD (usualModel e.label) := by
  cases chosen with
  | onMachine => rfl
  | @known b mem key found =>
    show s.model.getD b.defaultModel = s.model.getD (usualModel b.name)
    rw [usualModel, if_neg (name_ne_localName mem), find?_name mem]
    rfl
  | @unknown name url elsewhere unlisted given =>
    show s.model.getD name = s.model.getD (usualModel name)
    rw [usualModel, if_neg elsewhere, unlisted]
    rfl

theorem Chosen.baseUrl_eq (chosen : s.Chosen e) :
    some e.baseUrl = s.baseUrl.or (usualUrl? e.label) := by
  cases chosen with
  | onMachine =>
    show some (s.baseUrl.getD "http://localhost:11434/v1") = s.baseUrl.or (usualUrl? localName)
    rw [usualUrl?, if_pos rfl]
    cases s.baseUrl <;> rfl
  | @known b mem key found =>
    show some (s.baseUrl.getD b.baseUrl) = s.baseUrl.or (usualUrl? b.name)
    rw [usualUrl?, if_neg (name_ne_localName mem), find?_name mem]
    cases s.baseUrl <;> rfl
  | unknown elsewhere unlisted given => rw [given]; rfl

theorem Chosen.replies (chosen : s.Chosen e) : e.temperature = some 0 ∧ e.maxTokens = 4096 := by
  cases chosen <;> exact ⟨rfl, rfl⟩

end Draftsman.ProviderSettings

namespace Draftsman.Settings

open ProviderSettings (usualModel usualUrl?)
open Draftsman.Text (quoted)

/-! ### Numbers -/

/-- Digits that spell a number of 32 bits. -/
def AreDigits (ds : List Char) (n : UInt32) : Prop :=
  ds ≠ [] ∧ (∀ d ∈ ds, d.isDigit = true) ∧ Nat.ofDigitChars 10 ds 0 = n.toNat

/-- A text that spells a number of 32 bits, perhaps with a plus sign. -/
def Spells (text : List Char) (n : UInt32) : Prop :=
  ∃ ds, (text = ds ∨ text = '+' :: ds) ∧ AreDigits ds n

/-- The number that digits spell, if they are digits. -/
def ofDigits? (ds : List Char) : Option UInt32 :=
  if !ds.isEmpty && ds.all Char.isDigit && Nat.ofDigitChars 10 ds 0 < 0x100000000 then
    some (UInt32.ofNat (Nat.ofDigitChars 10 ds 0))
  else none

theorem ofDigits?_eq_some_iff {ds : List Char} {n : UInt32} :
    ofDigits? ds = some n ↔ AreDigits ds n := by
  unfold ofDigits? AreDigits
  rw [Option.ite_none_right_eq_some]
  simp only [Bool.and_eq_true, Bool.not_eq_true', List.isEmpty_eq_false_iff, List.all_eq_true,
    decide_eq_true_eq]
  constructor
  · rintro ⟨⟨⟨some, digits⟩, small⟩, same⟩
    refine ⟨some, digits, ?_⟩
    rw [← Option.some.inj same, UInt32.toNat_ofNat_of_lt' small]
  · rintro ⟨some, digits, same⟩
    rw [same]
    exact ⟨⟨⟨some, digits⟩, n.toNat_lt⟩, by rw [UInt32.ofNat_toNat]⟩

theorem word32?_plus (ds : List Char) : word32? ('+' :: ds) = ofDigits? ds := by
  simp only [word32?, ofDigits?, Nat.ofDigitChars, Nat.mul_comm]

theorem word32?_plain {text : List Char} (plain : ∀ ds, text ≠ '+' :: ds) :
    word32? text = ofDigits? text := by
  unfold word32?
  split
  · exact absurd rfl (plain _)
  · simp only [ofDigits?, Nat.ofDigitChars, Nat.mul_comm]

/-- What is read as a number is what spells one. -/
theorem word32?_eq_some_iff {text : List Char} {n : UInt32} :
    word32? text = some n ↔ Spells text n := by
  by_cases plus : ∃ ds, text = '+' :: ds
  · obtain ⟨ds, rfl⟩ := plus
    rw [word32?_plus, ofDigits?_eq_some_iff]
    constructor
    · exact fun spelled => ⟨ds, .inr rfl, spelled⟩
    · rintro ⟨other, rfl | same, spelled⟩
      · exact absurd (spelled.2.1 '+' List.mem_cons_self) (by decide)
      · rwa [(List.cons.inj same).2]
  · rw [not_exists] at plus
    rw [word32?_plain plus, ofDigits?_eq_some_iff]
    constructor
    · exact fun spelled => ⟨text, .inl rfl, spelled⟩
    · rintro ⟨ds, rfl | same, spelled⟩
      · exact spelled
      · exact absurd same (plus ds)

/-! ### The layers -/

/-- What settings are made of. -/
structure Layers where
  flags : Overrides
  environment : Environment
  file : Settings

/-- The first that is given. -/
def first {α : Type} (given : List (Option α)) : Option α := given.findSome? id

/-- The number of iterations in the environment, if it is one. -/
def number? (environment : Environment) : Option UInt32 :=
  (value? environment "FIGAGENT_MAX_ITERATIONS").bind fun value => word32? (Text.trim value.toList)

namespace Layers

variable (l : Layers)

def name : Option String :=
  first [l.flags.provider, value? l.environment "FIGAGENT_PROVIDER", l.file.provider.name]

def model : Option String :=
  first [l.flags.model, value? l.environment "FIGAGENT_MODEL", l.file.provider.model]

/-- There is no flag for the address. -/
def baseUrl : Option String :=
  first [value? l.environment "FIGAGENT_API_BASE_URL", l.file.provider.baseUrl]

def maxIterations : Option UInt32 :=
  first [l.flags.maxIterations, number? l.environment, l.file.agent.maxIterations]

/-- The settings after those of the environment, and whether they are all right. -/
def applied : Settings × Except Failure Unit := l.file.applyEnvironment l.environment

/-- The settings in the end. -/
def settled : Settings := l.applied.1.override l.flags

end Layers

/-! ### The environment -/

/-- What the environment sets as the number of iterations is a number, if it sets one. -/
def Countable (environment : Environment) : Prop :=
  ∀ value, Settings.value? environment "FIGAGENT_MAX_ITERATIONS" = some value →
    ∃ n, Spells (Text.trim value.toList) n

section Environment

variable {environment : Environment} {s : Settings}

theorem applyEnvironment_countable (countable : Countable environment) :
    s.applyEnvironment environment =
      ((s.withService environment).withIterations (number? environment), .ok ()) := by
  have read : iterations? environment = .ok (number? environment) := by
    unfold iterations? number?
    cases given : value? environment "FIGAGENT_MAX_ITERATIONS" with
    | none => rfl
    | some value =>
      obtain ⟨n, spelled⟩ := countable value given
      simp only [word32?_eq_some_iff.mpr spelled, Option.bind_some]
  rw [applyEnvironment, read]

/-- What is no number is told as it is. -/
theorem applyEnvironment_uncountable (uncountable : ¬ Countable environment) :
    ∃ value, Settings.value? environment "FIGAGENT_MAX_ITERATIONS" = some value ∧
      ∀ s : Settings, s.applyEnvironment environment = (s.withService environment,
        .error (.setting
          s!"FIGAGENT_MAX_ITERATIONS must be a positive integer, got {quoted value}")) := by
  simp only [Countable, not_forall] at uncountable
  obtain ⟨value, given, unspelled⟩ := uncountable
  have none : word32? (Text.trim value.toList) = none := by
    rw [Option.eq_none_iff_forall_ne_some]
    exact fun n read => unspelled ⟨n, word32?_eq_some_iff.mp read⟩
  refine ⟨value, given, fun s => ?_⟩
  simp only [applyEnvironment, iterations?, given, none]

theorem number?_eq_some_iff {n : UInt32} :
    number? environment = some n ↔
      ∃ value, Settings.value? environment "FIGAGENT_MAX_ITERATIONS" = some value ∧
        Spells (Text.trim value.toList) n := by
  rw [number?, Option.bind_eq_some_iff]
  simp only [word32?_eq_some_iff]

theorem applyEnvironment_ok_iff :
    (s.applyEnvironment environment).2 = .ok () ↔ Countable environment := by
  by_cases countable : Countable environment
  · rw [applyEnvironment_countable countable]
    exact iff_of_true rfl countable
  · obtain ⟨value, -, failed⟩ := applyEnvironment_uncountable countable
    rw [failed]
    exact iff_of_false nofun countable

/-- **Applying the same environment again changes nothing**, whether or not it fails. -/
theorem applyEnvironment_again :
    (s.applyEnvironment environment).1.applyEnvironment environment =
      s.applyEnvironment environment := by
  by_cases countable : Countable environment
  · rw [applyEnvironment_countable countable, applyEnvironment_countable countable]
    simp only [withIterations, withService, ← Option.or_assoc, Option.or_self]
  · obtain ⟨value, -, failed⟩ := applyEnvironment_uncountable countable
    rw [failed, failed]
    simp only [withService, ← Option.or_assoc, Option.or_self]

end Environment

/-! ### All layers -/

theorem first_nil {α : Type} : first ([] : List (Option α)) = none := rfl

theorem first_cons {α : Type} (a : Option α) (rest : List (Option α)) :
    first (a :: rest) = a.or (first rest) := by
  cases a <;> rfl

namespace Layers

variable (l : Layers)

theorem settled_eq (countable : Countable l.environment) :
    l.settled =
      ⟨{ l.file.agent with maxIterations := l.maxIterations }, ⟨l.name, l.model, l.baseUrl⟩⟩ := by
  rw [settled, applied, applyEnvironment_countable countable]
  simp only [override, withIterations, withService, name, model, baseUrl, maxIterations,
    first_cons, first_nil, Option.or_none]

/-- Where the settings are used, and what they are there if nobody has set them. -/
structure Used : Prop where
  limits : l.settled.limits =
    { maxIterations := l.maxIterations.getD 10
      providerTimeout := (l.file.agent.providerTimeout.map fun s => s.toNat * 1000).getD 120000
      toolTimeout := (l.file.agent.toolTimeout.map fun s => s.toNat * 1000).getD 60000
      instructions := l.file.agent.instructions }
  service : ∀ credentials, l.settled.providerSettings credentials =
    { provider := l.name, model := l.model, baseUrl := l.baseUrl, credentials }
  tuned : ∀ e, l.settled.tune e =
    { e with
      temperature := l.file.agent.temperature.or e.temperature
      maxTokens := l.file.agent.maxTokens.getD e.maxTokens }
  endpoint : ∀ credentials e, (l.settled.providerSettings credentials).resolve = .ok e →
    e.model = l.model.getD (usualModel e.label) ∧
    some e.baseUrl = l.baseUrl.or (usualUrl? e.label) ∧
    e.temperature = some 0 ∧ e.maxTokens = 4096

theorem used (countable : Countable l.environment) : l.Used := by
  have settled := l.settled_eq countable
  have service (credentials : List (String × String)) :
      l.settled.providerSettings credentials =
        { provider := l.name, model := l.model, baseUrl := l.baseUrl, credentials } := by
    rw [settled, providerSettings]
  refine ⟨?_, service, fun e => ?_, fun credentials e resolved => ?_⟩
  · rw [settled]
    rfl
  · rw [settled]
    rfl
  · have chosen := ProviderSettings.chosen_of_resolve resolved
    rw [service] at chosen
    exact ⟨chosen.model_eq, chosen.baseUrl_eq, chosen.replies⟩

end Layers

end Draftsman.Settings
