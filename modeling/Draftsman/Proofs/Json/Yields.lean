/-
What is read from any text.

A value can be read from many texts besides the one that it is written as: there may be
spaces in them, the entries of a record may stand in any order, among others that nobody
asked for, or be the items of an array, and some may be missing.  So it takes more than that
written values are read back to know that whatever is read is read back, too.

A reader yields values that have a property, whatever text it reads from.  There is one lemma
on this for each way of making a codec that can keep a value out.  If all that a codec yields
is read back, then a text that was rewritten, that is, read and written again, stays as it is
when it is rewritten once more.
-/
import Draftsman.Proofs.Json.Number

namespace Draftsman.Json

variable {α β σ : Type}

/-- Whatever is read has a property. -/
def Yields (reader : Reader α) (P : α → Prop) : Prop :=
  ∀ ⦃text a rest⦄, reader text = .ok (a, rest) → P a

theorem yields_of_forall {P : α → Prop} (all : ∀ a, P a) (reader : Reader α) : Yields reader P :=
  fun _ a _ _ => all a

theorem Yields.decode {c : Codec α} {P : α → Prop} (yields : Yields c.read P) {text : String}
    {a : α} (decoded : c.decode text = .ok a) : P a := by
  rw [Codec.decode, bind_eq_ok_iff] at decoded
  obtain ⟨⟨b, rest⟩, read, decoded⟩ := decoded
  obtain ⟨-, -, same⟩ := (bind_eq_ok_iff _ _ _).mp decoded
  cases same
  exact yields read

/-! ### Rewriting -/

/-- A text that is read, and then written again. -/
def Codec.rewrite (c : Codec α) (text : String) : Except Fault String :=
  (c.decode text).map c.encode

/--
Codecs that lose nothing of values that fit: these are read back from what they are written
as, nothing else is read from any text, and a text that was rewritten is rewritten as it is.
-/
structure Codec.Lossless (c : Codec α) (Fits : α → Prop) : Prop where
  decode_encode : ∀ a, Fits a → c.decode (c.encode a) = .ok a
  fits_of_decode : ∀ text a, c.decode text = .ok a → Fits a
  rewrite_again : ∀ text again, c.rewrite text = .ok again → c.rewrite again = .ok again

/-- **A codec loses nothing if it yields values that fit, and those are read back.** -/
theorem Codec.Lossless.of_yields {c : Codec α} {Fits : α → Prop}
    (back : ∀ a, Fits a → c.ReadsBack a) (yields : Yields c.read Fits) : c.Lossless Fits where
  decode_encode a fits := (back a fits).decode_encode
  fits_of_decode _ _ decoded := yields.decode decoded
  rewrite_again text again rewritten := by
    unfold Codec.rewrite at rewritten ⊢
    cases decoded : c.decode text with
    | error fault =>
      rw [decoded] at rewritten
      cases rewritten
    | ok a =>
      rw [decoded] at rewritten
      cases rewritten
      rw [(back a (yields.decode decoded)).decode_encode]
      rfl

/-! ### Numbers and spelled values -/

theorem Codec.natural_yields (wanted : String) (limit : Nat) :
    Yields (Codec.natural wanted limit).read (· ≤ limit) := by
  intro text n rest read
  obtain ⟨⟨number, left⟩, -, read⟩ := (bind_eq_ok_iff _ _ _).mp read
  obtain ⟨m, accepted, same⟩ := (bind_eq_ok_iff _ _ _).mp read
  cases same
  cases number with
  | decimal d => cases accepted
  | whole value =>
    rw [naturalOf] at accepted
    split at accepted
    · rename_i within
      cases accepted
      exact Int.toNat_le.mpr within.2
    · cases accepted

section Spelled

variable {parse : String → Except String α} {spell : α → String}

/-- A value is read back if it is told by what it is spelled as. -/
theorem Codec.spelled_readsBack (wanted : String) {a : α} (told : parse (spell a) = .ok a) :
    (Codec.spelled wanted parse spell).ReadsBack a where
  opens := opens_stringText (spell a)
  read rest _ := by
    show (readText wanted (stringText (spell a) ++ rest) >>= _) = _
    rw [stringText_append, readText, skipSpace_cons rfl]
    simp only [readString_afterQuote, ok_bind, told]

theorem Codec.spelled_yields (wanted : String) :
    Yields (Codec.spelled wanted parse spell).read fun a => ∃ s, parse s = .ok a := by
  intro text a rest read
  obtain ⟨⟨s, left⟩, -, read⟩ := (bind_eq_ok_iff _ _ _).mp read
  dsimp only at read
  split at read
  · rename_i found
    cases read
    exact ⟨s, found⟩
  · cases read

end Spelled

theorem Yields.map {c : Codec α} {P : α → Prop} {Q : β → Prop} (yields : Yields c.read P)
    {there : α → β} (back : β → α) (carries : ∀ a, P a → Q (there a)) :
    Yields (c.map there back).read Q := by
  intro text b rest read
  change (c.read text).map _ = _ at read
  cases found : c.read text with
  | error fault =>
    rw [found] at read
    cases read
  | ok result =>
    rw [found] at read
    cases read
    exact carries _ (yields found)

/-! ### Records -/

/-- What every entry keeps is kept by all of them. -/
theorem yields_readEntries {entry : σ → String → Reader σ} {Kept : σ → Prop}
    (step : ∀ state key, Kept state → Yields (entry state key) Kept) (first : Bool) {state : σ}
    (start : Kept state) (fuel : Nat) : Yields (readEntries entry first state fuel) Kept := by
  induction fuel generalizing first state with
  | zero => exact nofun
  | succ fuel ih =>
    intro text last rest read
    rw [readEntries, bind_eq_ok_iff] at read
    obtain ⟨found, -, read⟩ := read
    cases found with
    | none =>
      cases read
      exact start
    | some here =>
      obtain ⟨⟨key, left⟩, -, read⟩ := (bind_eq_ok_iff _ _ _).mp read
      obtain ⟨⟨next, left⟩, one, read⟩ := (bind_eq_ok_iff _ _ _).mp read
      exact ih false (step state key start one) read

/-- What is read for a field has a property, and so has what stands for it when it is missing. -/
structure Field.Yields (f : Field α) (P : α → Prop) : Prop where
  read : Json.Yields f.codec.read P
  absent : ∀ a ∈ f.absent, P a

/-- The values of a row have a property, whether they are read from entries or from items. -/
structure Row.Yields (row : Row α) (P : α → Prop) : Prop where
  entries : ∃ Kept : row.Slots → Prop, Kept row.empty ∧
    (∀ slots key reader, Kept slots → row.entry? key slots = some reader →
      Json.Yields reader Kept) ∧
    ∀ slots a, Kept slots → row.finish slots = .ok a → P a
  items : ∀ wanted index, Json.Yields (row.items wanted index) P

theorem Field.Yields.missing {f : Field α} {P : α → Prop} (yields : f.Yields P) {fault : Fault}
    {a : α} (found : f.missing fault = .ok a) : P a := by
  rw [Field.missing] at found
  split at found
  · rename_i absent
    cases found
    exact yields.absent _ absent
  · cases found

theorem Row.nil_yields {P : Unit → Prop} (all : P ()) : Row.nil.Yields P where
  entries := ⟨fun _ => True, trivial, nofun, fun _ _ _ _ => all⟩
  items _ _ := yields_of_forall (fun _ => all) _

/-- A field and others. -/
theorem Row.Yields.cons {f : Field α} {row : Row β} {P : α → Prop} {Q : β → Prop}
    (field : f.Yields P) (others : row.Yields Q) :
    (Row.cons f row).Yields fun ab => P ab.1 ∧ Q ab.2 where
  entries := by
    obtain ⟨Kept, start, step, finish⟩ := others.entries
    -- A slot is empty until its entry has been read, and what it holds then is never replaced.
    refine ⟨fun slots => (∀ a ∈ slots.1, P a) ∧ Kept slots.2, ⟨nofun, start⟩, ?_, ?_⟩
    · rintro ⟨slot, slots⟩ key reader ⟨first, kept⟩ known text ⟨slot', slots'⟩ rest read
      by_cases here : key = f.key
      · simp only [Row.cons, if_pos here] at known
        cases known
        cases slot with
        | some a => cases read
        | none =>
          obtain ⟨left, -, read⟩ := (bind_eq_ok_iff _ _ _).mp read
          obtain ⟨⟨a, left⟩, one, read⟩ := (bind_eq_ok_iff _ _ _).mp read
          cases read
          refine ⟨fun b mem => ?_, kept⟩
          cases mem
          exact field.read one
      · obtain ⟨other, asked, rfl⟩ := Option.map_eq_some_iff.mp ((if_neg here).symm.trans known)
        obtain ⟨⟨next, left⟩, one, read⟩ := (bind_eq_ok_iff _ _ _).mp read
        cases read
        exact ⟨first, step slots key other kept asked one⟩
    · rintro ⟨slot, slots⟩ ⟨a, b⟩ ⟨first, kept⟩ finished
      have value : ∃ a', P a' ∧ ∃ b', row.finish slots = .ok b' ∧ (a', b') = (a, b) := by
        cases slot with
        | some c =>
          obtain ⟨c', found, finished⟩ := (bind_eq_ok_iff _ _ _).mp finished
          obtain ⟨b', below, finished⟩ := (bind_eq_ok_iff _ _ _).mp finished
          cases found
          exact ⟨c, first c rfl, b', below, Except.ok.inj finished⟩
        | none =>
          obtain ⟨c, missing, finished⟩ := (bind_eq_ok_iff _ _ _).mp finished
          obtain ⟨b', below, finished⟩ := (bind_eq_ok_iff _ _ _).mp finished
          exact ⟨c, field.missing missing, b', below, Except.ok.inj finished⟩
      obtain ⟨a', fits, b', below, same⟩ := value
      cases same
      exact ⟨fits, finish slots b kept below⟩
  items wanted index := by
    rintro text ⟨a, b⟩ rest read
    obtain ⟨found, -, read⟩ := (bind_eq_ok_iff _ _ _).mp read
    cases found with
    | none =>
      obtain ⟨a', value, read⟩ := (bind_eq_ok_iff _ _ _).mp read
      obtain ⟨⟨b', left⟩, below, read⟩ := (bind_eq_ok_iff _ _ _).mp read
      cases read
      exact ⟨field.missing value, others.items wanted (index + 1) below⟩
    | some here =>
      obtain ⟨⟨a', left⟩, value, read⟩ := (bind_eq_ok_iff _ _ _).mp read
      obtain ⟨⟨b', left'⟩, below, read⟩ := (bind_eq_ok_iff _ _ _).mp read
      cases read
      exact ⟨field.read value, others.items wanted (index + 1) below⟩

/-- An entry that no field asks for is passed over. -/
theorem Row.yields_readEntry {row : Row α} {Kept : row.Slots → Prop}
    (step : ∀ slots key reader, Kept slots → row.entry? key slots = some reader →
      Json.Yields reader Kept)
    (slots : row.Slots) (key : String) (kept : Kept slots) :
    Json.Yields (row.readEntry slots key) Kept := by
  rw [Row.readEntry]
  split
  · rename_i reader known
    exact step slots key reader kept known
  · intro text next rest read
    obtain ⟨left, -, read⟩ := (bind_eq_ok_iff _ _ _).mp read
    obtain ⟨left', -, read⟩ := (bind_eq_ok_iff _ _ _).mp read
    cases read
    exact kept

/-- A record yields what its row does, in either form. -/
theorem Codec.record_yields (name : String) {row : Row α} {P : α → Prop} (yields : row.Yields P) :
    Yields (Codec.record name row).read P := by
  obtain ⟨Kept, start, step, finish⟩ := yields.entries
  intro text a rest read
  simp only [Codec.record] at read
  split at read
  · obtain ⟨⟨slots, left⟩, entries, read⟩ := (bind_eq_ok_iff _ _ _).mp read
    obtain ⟨b, finished, read⟩ := (bind_eq_ok_iff _ _ _).mp read
    cases read
    exact finish slots a
      (yields_readEntries (Row.yields_readEntry step) true start _ entries) finished
  · obtain ⟨⟨b, left⟩, items, read⟩ := (bind_eq_ok_iff _ _ _).mp read
    obtain ⟨left', -, read⟩ := (bind_eq_ok_iff _ _ _).mp read
    cases read
    exact yields.items _ 0 items
  · cases read

theorem Field.required_yields (key : String) {codec : Codec α} {P : α → Prop}
    (read : Json.Yields codec.read P) : (Field.required key codec).Yields P := ⟨read, nofun⟩

/-- A field of which nothing is to be known. -/
theorem Field.required_any (key : String) (codec : Codec α) :
    (Field.required key codec).Yields fun _ => True :=
  required_yields key (yields_of_forall (fun _ => trivial) _)

end Draftsman.Json
