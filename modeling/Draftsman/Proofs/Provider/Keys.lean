/-
Whose key is used.

A service may be asked for by name, or else the first one is taken for which there is a key.
Either way there are only three kinds of endpoint (`Chosen`): that of the machine itself, that
of a known service with the key of that very service, and that of a service nobody has heard
of.  An endpoint therefore never goes with the key of another known service, and it always has
one.

Conversely, keys that are not used do not matter.  Which one is used can be told from the
settings (`usedKey?`), and so can the ones that were looked for before it (`passedOver`), of
which nothing counts except that they are missing.
-/
import Mathlib.Data.List.Basic
import Draftsman.Provider.Backend

namespace Draftsman.ProviderSettings

open Draftsman.Text (lowercase)

variable {s s' : ProviderSettings}

/-! ### Keys -/

/-- A key that is not missing is not empty. -/
theorem ne_empty_of_credential? {keyName key : String} (found : s.credential? keyName = some key) :
    key ≠ "" := by
  rw [credential?, Option.filter_eq_some_iff] at found
  rintro rfl
  cases found.2

/-- The name of the key that belongs to a service, if it has one. -/
def keyNameOf? (name : String) : Option String :=
  if name = localName then none
  else
    match backends.find? fun b => b.name == name with
    | some b => some b.keyName
    | none => some "OPENAI_API_KEY"

/--
The key that belongs to a service: its own if it is a known one, and if nobody has heard of it,
the one that is used for want of a better one.
-/
def keyOf? (s : ProviderSettings) (name : String) : Option String :=
  if name = localName then some "ollama"
  else
    match backends.find? fun b => b.name == name with
    | some b => s.credential? b.keyName
    | none => some ((s.credential? "OPENAI_API_KEY").getD "no-key")

/-- No two services have the same name. -/
theorem find?_name {b : Backend} (mem : b ∈ backends) :
    (backends.find? fun other => other.name == b.name) = some b := by
  have all : ∀ b ∈ backends, (backends.find? fun other => other.name == b.name) = some b := by
    decide
  exact all b mem

theorem name_ne_localName {b : Backend} (mem : b ∈ backends) : b.name ≠ localName := by
  have all : ∀ b ∈ backends, b.name ≠ localName := by decide
  exact all b mem

theorem keyNameOf?_known {b : Backend} (mem : b ∈ backends) :
    keyNameOf? b.name = some b.keyName := by
  rw [keyNameOf?, if_neg (name_ne_localName mem), find?_name mem]

theorem keyNameOf?_unknown {name : String} (elsewhere : name ≠ localName)
    (unlisted : (backends.find? fun b => b.name == name) = none) :
    keyNameOf? name = some "OPENAI_API_KEY" := by
  rw [keyNameOf?, if_neg elsewhere, unlisted]

theorem keyOf?_known {b : Backend} (mem : b ∈ backends) :
    s.keyOf? b.name = s.credential? b.keyName := by
  rw [keyOf?, if_neg (name_ne_localName mem), find?_name mem]

theorem keyOf?_unknown {name : String} (elsewhere : name ≠ localName)
    (unlisted : (backends.find? fun b => b.name == name) = none) :
    s.keyOf? name = some ((s.credential? "OPENAI_API_KEY").getD "no-key") := by
  rw [keyOf?, if_neg elsewhere, unlisted]

/-! ### What may be chosen -/

/-- The endpoints that may come of settings. -/
inductive Chosen (s : ProviderSettings) : Endpoint → Prop
  /-- The service that runs on the machine itself, which needs no key. -/
  | onMachine : Chosen s s.localEndpoint
  /-- A known service with its own key. -/
  | known {b : Backend} (mem : b ∈ backends) {key : String}
      (found : s.credential? b.keyName = some key) : Chosen s (s.endpoint b key)
  /-- A service nobody has heard of, at the address that was given. -/
  | unknown {name url : String} (elsewhere : name ≠ localName)
      (unlisted : (backends.find? fun b => b.name == name) = none) (given : s.baseUrl = some url) :
      Chosen s (.usual .openai name ((s.credential? "OPENAI_API_KEY").getD "no-key") url
        (s.model.getD name))

theorem named_of_key {b : Backend} (mem : b ∈ backends) {key : String}
    (found : s.credential? b.keyName = some key) : s.named b.name = .ok (s.endpoint b key) := by
  rw [named, if_neg (name_ne_localName mem), find?_name mem]
  simp only [found]

/-- A service whose key is missing never gives way to another one. -/
theorem named_of_missing {b : Backend} (mem : b ∈ backends)
    (missing : s.credential? b.keyName = none) :
    s.named b.name = .error (.missingKey b.name b.keyName) := by
  rw [named, if_neg (name_ne_localName mem), find?_name mem]
  simp only [missing]

theorem named_unknown {name : String} (elsewhere : name ≠ localName)
    (unlisted : (backends.find? fun b => b.name == name) = none) :
    s.named name = s.customEndpoint name := by
  rw [named, if_neg elsewhere, unlisted]

/-- A name is that of the machine itself, that of a known service, or neither. -/
theorem name_cases (name : String) :
    name = localName ∨ (∃ b ∈ backends, b.name = name) ∨
      name ≠ localName ∧ (backends.find? fun b => b.name == name) = none := by
  by_cases here : name = localName
  · exact .inl here
  · cases listed : backends.find? fun b => b.name == name with
    | some b =>
      have called : b.name = name := by simpa using List.find?_some listed
      exact .inr (.inl ⟨b, List.mem_of_find?_eq_some listed, called⟩)
    | none => exact .inr (.inr ⟨here, rfl⟩)

/-- An endpoint that is asked for by name has that name. -/
theorem named_eq_ok {name : String} {e : Endpoint} (ok : s.named name = .ok e) :
    s.Chosen e ∧ e.label = name := by
  obtain rfl | ⟨b, mem, rfl⟩ | ⟨elsewhere, unlisted⟩ := name_cases name
  · cases ok
    exact ⟨.onMachine, rfl⟩
  · cases found : s.credential? b.keyName with
    | none =>
      rw [named_of_missing mem found] at ok
      cases ok
    | some key =>
      rw [named_of_key mem found] at ok
      cases ok
      exact ⟨.known mem found, rfl⟩
  · rw [named_unknown elsewhere unlisted, customEndpoint] at ok
    cases given : s.baseUrl with
    | none => simp [given] at ok
    | some url =>
      simp only [given] at ok
      cases ok
      exact ⟨.unknown elsewhere unlisted given, rfl⟩

/-- The first service for which there is a key goes with the first key that there is. -/
theorem firstWithKey?_eq_some {e : Endpoint} (found : s.firstWithKey? = some e) :
    ∃ b ∈ backends, ∃ key, s.credential? b.keyName = some key ∧ e = s.endpoint b key ∧
      keyNames.find? (fun keyName => (s.credential? keyName).isSome) = some b.keyName := by
  obtain ⟨before, b, behind, split, taken, missing⟩ := List.findSome?_eq_some_iff.mp found
  obtain ⟨key, has, rfl⟩ := Option.map_eq_some_iff.mp taken
  refine ⟨b, split ▸ by simp, key, has, rfl, ?_⟩
  have none : (before.map Backend.keyName).find? (fun keyName => (s.credential? keyName).isSome)
      = none := by
    rw [List.find?_eq_none]
    intro keyName mem
    obtain ⟨other, among, rfl⟩ := List.mem_map.mp mem
    simpa using missing other among
  rw [keyNames, split, List.map_append, List.find?_append, none, Option.none_or, List.map_cons,
    List.find?_cons_of_pos (by rw [has]; rfl)]

theorem resolve_asked {name : String} (asked : s.provider = some name) :
    s.resolve = s.named (canonicalName (lowercase name)) := by
  rw [resolve, asked]

/-- What is chosen was asked for by name, or else was the first with a key. -/
theorem resolve_cases {e : Endpoint} (ok : s.resolve = .ok e) :
    (∃ name, s.provider = some name ∧ s.named (canonicalName (lowercase name)) = .ok e) ∨
      s.provider = none ∧ s.firstWithKey? = some e := by
  cases asked : s.provider with
  | some name => exact .inl ⟨name, rfl, (resolve_asked asked).symm.trans ok⟩
  | none =>
    unfold resolve at ok
    rw [asked] at ok
    cases first : s.firstWithKey? with
    | none => simp [first] at ok
    | some other =>
      simp only [first] at ok
      cases ok
      exact .inr ⟨rfl, rfl⟩

theorem chosen_of_resolve {e : Endpoint} (ok : s.resolve = .ok e) : s.Chosen e := by
  obtain ⟨name, -, ok⟩ | ⟨-, first⟩ := resolve_cases ok
  · exact (named_eq_ok ok).1
  · obtain ⟨b, mem, key, found, rfl, -⟩ := firstWithKey?_eq_some first
    exact .known mem found

theorem Chosen.key_ne_empty {e : Endpoint} (chosen : s.Chosen e) : e.key ≠ "" := by
  cases chosen with
  | onMachine => exact (by decide : "ollama" ≠ "")
  | known _ found => exact ne_empty_of_credential? found
  | unknown =>
    show (s.credential? "OPENAI_API_KEY").getD "no-key" ≠ ""
    cases found : s.credential? "OPENAI_API_KEY" with
    | none => exact (by decide : "no-key" ≠ "")
    | some key => exact ne_empty_of_credential? found

theorem Chosen.keyOf?_label {e : Endpoint} (chosen : s.Chosen e) :
    s.keyOf? e.label = some e.key := by
  cases chosen with
  | onMachine => rfl
  | known mem found => exact (keyOf?_known mem).trans found
  | unknown elsewhere unlisted => exact keyOf?_unknown elsewhere unlisted

/-! ### Keys that do not matter -/

/-- The name of the key that is used. -/
def usedKey? (s : ProviderSettings) : Option String :=
  match s.provider with
  | some name => keyNameOf? (canonicalName (lowercase name))
  | none => keyNames.find? fun keyName => (s.credential? keyName).isSome

/-- The names of the keys that were looked for before it, and are missing. -/
def passedOver (s : ProviderSettings) : List String :=
  match s.provider with
  | some _ => []
  | none => keyNames.takeWhile fun keyName => (s.credential? keyName).isNone

/-- Settings that differ at most in keys that do not matter. -/
structure Agrees (s s' : ProviderSettings) : Prop where
  provider : s'.provider = s.provider
  model : s'.model = s.model
  baseUrl : s'.baseUrl = s.baseUrl
  used : ∀ keyName ∈ s.usedKey?, s'.credential? keyName = s.credential? keyName
  passed : ∀ keyName ∈ s.passedOver,
    (s'.credential? keyName).isSome = (s.credential? keyName).isSome

/-- An endpoint that is asked for by name takes one key at most. -/
theorem named_congr (model : s'.model = s.model) (baseUrl : s'.baseUrl = s.baseUrl) {name : String}
    (same : ∀ keyName ∈ keyNameOf? name, s'.credential? keyName = s.credential? keyName) :
    s'.named name = s.named name := by
  obtain rfl | ⟨b, mem, rfl⟩ | ⟨elsewhere, unlisted⟩ := name_cases name
  · show Except.ok s'.localEndpoint = Except.ok s.localEndpoint
    rw [localEndpoint, model, baseUrl, localEndpoint]
  · have same := same _ (keyNameOf?_known mem)
    cases found : s.credential? b.keyName with
    | none => rw [named_of_missing mem found, named_of_missing mem (same.trans found)]
    | some key =>
      rw [named_of_key mem found, named_of_key mem (same.trans found)]
      simp only [endpoint, model, baseUrl]
  · rw [named_unknown elsewhere unlisted, named_unknown elsewhere unlisted, customEndpoint,
      customEndpoint, same _ (keyNameOf?_unknown elsewhere unlisted), model, baseUrl]

/-- The search for a key goes on as long as keys are missing, and takes the first it finds. -/
theorem findSome?_congr {bs : List Backend}
    (endpoint : ∀ b key, s'.endpoint b key = s.endpoint b key)
    (used : ∀ keyName ∈ (bs.map Backend.keyName).find? fun keyName =>
      (s.credential? keyName).isSome, s'.credential? keyName = s.credential? keyName)
    (passed : ∀ keyName ∈ (bs.map Backend.keyName).takeWhile fun keyName =>
      (s.credential? keyName).isNone,
      (s'.credential? keyName).isSome = (s.credential? keyName).isSome) :
    (bs.findSome? fun b => (s'.credential? b.keyName).map (s'.endpoint b)) =
      bs.findSome? fun b => (s.credential? b.keyName).map (s.endpoint b) := by
  induction bs with
  | nil => rfl
  | cons b rest ih =>
    rw [List.findSome?_cons, List.findSome?_cons]
    cases has : s.credential? b.keyName with
    | some key =>
      have same := used b.keyName (by simp [has])
      rw [same, has]
      simp only [Option.map_some, endpoint]
    | none =>
      have missing : s'.credential? b.keyName = none := by
        have same := passed b.keyName (by simp [has])
        rwa [has, Option.isSome_none, Option.isSome_eq_false_iff, Option.isNone_iff_eq_none] at same
      rw [missing]
      refine ih (fun keyName mem => used keyName ?_) (fun keyName mem => passed keyName ?_)
      · simpa [has] using mem
      · simpa [has] using .inr mem

/-- **Keys that are not used do not matter.** -/
theorem resolve_congr (agrees : s.Agrees s') : s'.resolve = s.resolve := by
  obtain ⟨provider, model, baseUrl, used, passed⟩ := agrees
  unfold usedKey? at used
  unfold passedOver at passed
  rw [resolve, provider, resolve]
  cases asked : s.provider with
  | some name =>
    rw [asked] at used
    exact named_congr model baseUrl used
  | none =>
    rw [asked] at used passed
    have endpoint (b : Backend) (key : String) : s'.endpoint b key = s.endpoint b key := by
      simp only [ProviderSettings.endpoint, model, baseUrl]
    have same : s'.firstWithKey? = s.firstWithKey? := findSome?_congr endpoint used passed
    rw [same]

/-- The key that is used belongs to the service that is chosen. -/
theorem usedKey?_of_resolve {e : Endpoint} (ok : s.resolve = .ok e) :
    s.usedKey? = keyNameOf? e.label := by
  unfold usedKey?
  obtain ⟨name, asked, ok⟩ | ⟨unasked, first⟩ := resolve_cases ok
  · rw [asked, (named_eq_ok ok).2]
  · obtain ⟨b, mem, key, -, rfl, used⟩ := firstWithKey?_eq_some first
    rw [unasked]
    exact used.trans (keyNameOf?_known mem).symm

end Draftsman.ProviderSettings
