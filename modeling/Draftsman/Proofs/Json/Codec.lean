/-
Codecs whose values are read back.

A value is read back if reading the text that it is written as gives the value again, and
leaves what is behind the text.  For each way of making a codec there is one lemma on the
values that it reads back, so that the law of a type follows the shape of its codec; for a
record it is put together one field after the other, as the record is.
-/
import Draftsman.Json.Codec
import Draftsman.Proofs.Json.Token

namespace Draftsman.Json

theorem ok_bind {α β ε : Type} (a : α) (f : α → Except ε β) : Except.ok a >>= f = f a := rfl

theorem bind_eq_ok_iff {α β ε : Type} (x : Except ε α) (f : α → Except ε β) (b : β) :
    x >>= f = .ok b ↔ ∃ a, x = .ok a ∧ f a = .ok b := by
  cases x with
  | error fault => exact iff_of_false nofun fun ⟨_, ok, _⟩ => nomatch ok
  | ok a =>
    constructor
    · intro result
      exact ⟨a, rfl, result⟩
    · rintro ⟨_, ⟨⟩, result⟩
      exact result

/-! ### What stands around a value -/

/-- Texts that may stand behind a value. -/
def Delimited : List Char → Prop
  | [] => True
  | c :: _ => c = ',' ∨ c = ']' ∨ c = '\x7d'

/-- Texts that begin as a value does: neither with a space nor with the end of an array. -/
def Opens : List Char → Prop
  | [] => False
  | c :: _ => isSpace c = false ∧ c ≠ ']'

theorem Opens.exists_cons {text : List Char} (opens : Opens text) :
    ∃ c rest, text = c :: rest ∧ isSpace c = false ∧ c ≠ ']' := by
  cases text with
  | nil => exact opens.elim
  | cons c rest => exact ⟨c, rest, rfl, opens⟩

theorem Opens.append {text : List Char} (opens : Opens text) (rest : List Char) :
    Opens (text ++ rest) := by
  obtain ⟨c, more, rfl, solid⟩ := opens.exists_cons
  exact solid

theorem Opens.skipSpace {text : List Char} (opens : Opens text) : skipSpace text = text := by
  obtain ⟨c, rest, rfl, solid, -⟩ := opens.exists_cons
  exact skipSpace_cons solid rest

/-- The text that a value is written as. -/
def Codec.text {α : Type} (c : Codec α) (a : α) : List Char := (c.toValue a).compact

/-- A value is read back from its text, up to what may stand behind a value. -/
structure Codec.ReadsBack {α : Type} (c : Codec α) (a : α) : Prop where
  opens : Opens (c.text a)
  read : ∀ rest, Delimited rest → c.read (c.text a ++ rest) = .ok (a, rest)

/-- **Decoding undoes encoding.** -/
theorem Codec.ReadsBack.decode_encode {α : Type} {c : Codec α} {a : α} (back : c.ReadsBack a) :
    c.decode (c.encode a) = .ok a := by
  have read := back.read [] trivial
  rw [List.append_nil] at read
  rw [decode, encode, Value.line, String.toList_ofList, ← text, read]
  rfl

theorem Codec.ReadsBack.map {α β : Type} {c : Codec α} {there : α → β} {back : β → α} {b : β}
    (inverse : there (back b) = b) (reads : c.ReadsBack (back b)) :
    (c.map there back).ReadsBack b where
  opens := reads.opens
  read rest delimited := by
    show (c.read (c.text (back b) ++ rest)).map _ = _
    rw [reads.read rest delimited]
    exact congrArg (fun a => Except.ok (a, rest)) inverse

/-! ### Strings, choices and options -/

theorem opens_stringText (s : String) : Opens (stringText s) := by
  rw [← List.append_nil (stringText s), stringText_append]
  exact ⟨rfl, by decide⟩

theorem Codec.string_readsBack (s : String) : Codec.string.ReadsBack s where
  opens := opens_stringText s
  read rest _ := by
    show readText "a string" (stringText s ++ rest) = _
    rw [stringText_append, readText, skipSpace_cons rfl]
    exact readString_afterQuote s rest

/-- A name is read back if its table knows it. -/
theorem Codec.choice_readsBack {α : Type} {table : List (String × α)} {name : α → String} {a : α}
    (known : table.lookup (name a) = some a) : (Codec.choice table name).ReadsBack a where
  opens := opens_stringText (name a)
  read rest _ := by
    show readChoice table (stringText (name a) ++ rest) = _
    rw [stringText_append, readChoice, skipSpace_cons rfl]
    simp only [readString_afterQuote, ok_bind, named, known]

/-- A value that is there is read back if it is not written as null. -/
theorem Codec.option_readsBack {α : Type} {c : Codec α} {a : α} (back : c.ReadsBack a)
    (not_null : (c.text a).head? ≠ some 'n') : c.option.ReadsBack (some a) where
  opens := back.opens
  read rest delimited := by
    have read := back.read rest delimited
    have opens := back.opens.append rest
    have solid : (c.text a ++ rest).head? ≠ some 'n' := by
      obtain ⟨first, more, begins, _⟩ := back.opens.exists_cons
      rw [begins] at not_null ⊢
      exact not_null
    show c.option.read (c.text a ++ rest) = _
    generalize c.text a ++ rest = text at read opens solid
    simp only [Codec.option, opens.skipSpace]
    split
    · exact absurd rfl solid
    · rw [read, ok_bind]

/-! ### Arrays -/

theorem joinText_cons (separator text : List Char) (rest : List (List Char)) :
    joinText separator (text :: rest) = text ++ rest.flatMap (separator ++ ·) := by
  induction rest generalizing text with
  | nil => simp [joinText]
  | cons next rest ih =>
    show text ++ separator ++ joinText separator (next :: rest) = _
    rw [ih, List.flatMap_cons, List.append_assoc, List.append_assoc]

theorem length_le_joinText (texts : List (List Char)) :
    texts.length ≤ (joinText [','] texts).length + 1 := by
  cases texts with
  | nil => exact Nat.zero_le _
  | cons text rest =>
    have behind : rest.length ≤ (rest.flatMap ([','] ++ ·)).length :=
      Text.length_le_flatMap fun next _ => List.cons_ne_nil ',' next
    rw [joinText_cons, List.length_append, List.length_cons]
    omega

theorem delimited_flatMap {α : Type} (as : List α) (write : α → List Char) {closer : Char}
    (closes : Delimited [closer]) (rest : List Char) :
    Delimited (as.flatMap (fun a => ',' :: write a) ++ closer :: rest) := by
  cases as with
  | nil => exact closes
  | cons a as => exact .inl rfl

theorem nextItem?_opens {text : List Char} (opens : Opens text) :
    nextItem? true text = .ok (some text) ∧ nextItem? false (',' :: text) = .ok (some text) := by
  obtain ⟨c, rest, rfl, solid, other⟩ := opens.exists_cons
  constructor
  · rw [nextItem?, skipSpace_cons solid]
    split <;> simp_all
  · have comma : isSpace ',' = false := rfl
    simp only [nextItem?, skipSpace_cons comma, skipSpace_cons solid, Char.reduceEq, imp_self,
      Bool.false_eq_true, if_false, if_true]
    split <;> simp_all

/-- One item is read, and then those behind it. -/
theorem readItems_step {σ : Type} {item : σ → Reader σ} {first : Bool} {state next : σ}
    {text here rest : List Char} (found : nextItem? first text = .ok (some here))
    (read : item state here = .ok (next, rest)) (fuel : Nat) :
    readItems item first state (fuel + 1) text = readItems item false next fuel rest := by
  rw [readItems, found, ok_bind]
  simp only [read, ok_bind]

/-- Reads an item and puts it before the ones that were read. -/
def Codec.readItem {α : Type} (c : Codec α) (items : List α) : Reader (List α) := fun text => do
  let (a, rest) ← c.read text
  .ok (a :: items, rest)

theorem Codec.ReadsBack.readItem {α : Type} {c : Codec α} {a : α} (back : c.ReadsBack a)
    (items : List α) {rest : List Char} (delimited : Delimited rest) :
    c.readItem items (c.text a ++ rest) = .ok (a :: items, rest) := by
  rw [Codec.readItem, back.read rest delimited, ok_bind]

/-- The items behind the first one are read back. -/
theorem Codec.readItems_behind {α : Type} {c : Codec α} {as : List α}
    (back : ∀ a ∈ as, c.ReadsBack a) (items : List α) (rest : List Char) {fuel : Nat}
    (enough : as.length < fuel) :
    readItems c.readItem false items fuel (as.flatMap (fun a => ',' :: c.text a) ++ ']' :: rest)
      = .ok (as.reverse ++ items, rest) := by
  induction as generalizing items fuel with
  | nil =>
    obtain ⟨fuel, rfl⟩ : ∃ n, fuel = n + 1 := ⟨fuel - 1, by omega⟩
    rfl
  | cons a as ih =>
    obtain ⟨fuel, rfl⟩ : ∃ n, fuel = n + 1 := ⟨fuel - 1, by omega⟩
    rw [List.forall_mem_cons] at back
    have behind := delimited_flatMap as c.text (.inr (.inl rfl)) rest
    rw [List.flatMap_cons, List.append_assoc, List.cons_append,
      readItems_step (nextItem?_opens (back.1.opens.append _)).2 (back.1.readItem items behind),
      ih back.2 (a :: items) (Nat.lt_of_succ_lt_succ enough), List.reverse_cons,
      List.append_assoc, List.singleton_append]

/-- Items are read back, up to the end of their array. -/
theorem Codec.readItems_joinText {α : Type} {c : Codec α} {as : List α}
    (back : ∀ a ∈ as, c.ReadsBack a) (rest : List Char) {fuel : Nat} (enough : as.length < fuel) :
    readItems c.readItem true [] fuel (joinText [','] (as.map c.text) ++ ']' :: rest)
      = .ok (as.reverse, rest) := by
  obtain ⟨fuel, rfl⟩ : ∃ n, fuel = n + 1 := ⟨fuel - 1, by omega⟩
  cases as with
  | nil => rfl
  | cons a as =>
    rw [List.forall_mem_cons] at back
    have joined : joinText [','] ((a :: as).map c.text) ++ ']' :: rest
        = c.text a ++ (as.flatMap (fun a => ',' :: c.text a) ++ ']' :: rest) := by
      rw [List.map_cons, joinText_cons, List.flatMap_map, List.append_assoc]
      rfl
    have behind := delimited_flatMap as c.text (.inr (.inl rfl)) rest
    rw [joined,
      readItems_step (nextItem?_opens (back.1.opens.append _)).1 (back.1.readItem [] behind),
      readItems_behind back.2 [a] rest (Nat.lt_of_succ_lt_succ enough), List.reverse_cons]

theorem Codec.list_read {α : Type} (c : Codec α) (text : List Char) :
    c.list.read ('[' :: text) = (do
      let (items, rest) ← readItems c.readItem true [] (text.length + 1) text
      .ok (items.reverse, rest)) := rfl

theorem Codec.list_text {α : Type} (c : Codec α) (as : List α) :
    c.list.text as = '[' :: (joinText [','] (as.map c.text) ++ [']']) := by
  have texts : compactItems (as.map c.toValue) = as.map c.text := by
    induction as with
    | nil => rfl
    | cons a as ih =>
      rw [List.map_cons, compactItems, ih, List.map_cons]
      rfl
  show '[' :: joinText [','] (compactItems (as.map c.toValue)) ++ [']'] = _
  rw [texts]
  rfl

/-- A list is read back if its items are. -/
theorem Codec.list_readsBack {α : Type} {c : Codec α} {as : List α}
    (back : ∀ a ∈ as, c.ReadsBack a) : c.list.ReadsBack as where
  opens := by
    rw [list_text]
    exact ⟨rfl, by decide⟩
  read rest _ := by
    have enough := length_le_joinText (as.map c.text)
    rw [List.length_map] at enough
    rw [list_text, List.cons_append, List.append_assoc, List.singleton_append, list_read,
      readItems_joinText back rest (by rw [List.length_append, List.length_cons]; omega), ok_bind]
    simp only [List.reverse_reverse]

/-! ### Records -/

/-- An entry as it is written. -/
def entryText (entry : String × Value) : List Char :=
  stringText entry.1 ++ ':' :: entry.2.compact

theorem compactEntries_eq_map (entries : List (String × Value)) :
    compactEntries entries = entries.map entryText := by
  induction entries with
  | nil => rfl
  | cons entry entries ih =>
    rw [compactEntries, ih]
    rfl

theorem nextKey?_entryText (entry : String × Value) (rest : List Char) :
    nextKey? true (entryText entry ++ rest)
        = .ok (some (afterQuote entry.1 (':' :: entry.2.compact ++ rest))) ∧
      nextKey? false (',' :: (entryText entry ++ rest))
        = .ok (some (afterQuote entry.1 (':' :: entry.2.compact ++ rest))) := by
  rw [entryText, List.append_assoc, stringText_append]
  exact ⟨rfl, rfl⟩

/-- One entry is read, and then those behind it. -/
theorem readEntries_step {σ : Type} {entry : σ → String → Reader σ} {first : Bool} {state next : σ}
    {key : String} {text here rest : List Char}
    (found : nextKey? first text = .ok (some (afterQuote key here)))
    (read : entry state key here = .ok (next, rest)) (fuel : Nat) :
    readEntries entry first state (fuel + 1) text = readEntries entry false next fuel rest := by
  rw [readEntries, found, ok_bind]
  simp only [readString_afterQuote, read, ok_bind]

/-- Entries are taken into slots one after the other, each from what is written behind its key. -/
inductive Row.Enters {α : Type} (row : Row α) :
    row.Slots → List (String × Value) → row.Slots → Prop
  | nil {slots : row.Slots} : Enters row slots [] slots
  | cons {slots next last : row.Slots} {key : String} {v : Value} {entries : List (String × Value)}
    {reader : Reader row.Slots} (known : row.entry? key slots = some reader)
    (read : ∀ rest, Delimited rest → reader (':' :: v.compact ++ rest) = .ok (next, rest))
    (behind : Enters row next entries last) : Enters row slots ((key, v) :: entries) last

theorem Row.readEntry_known {α : Type} {row : Row α} {slots : row.Slots} {key : String}
    {reader : Reader row.Slots} (known : row.entry? key slots = some reader) :
    row.readEntry slots key = reader := by
  rw [Row.readEntry, known]

/-- The entries behind the first one are read into their slots. -/
theorem Row.Enters.readEntries_behind {α : Type} {row : Row α} {slots last : row.Slots}
    {entries : List (String × Value)} (enters : row.Enters slots entries last) (rest : List Char)
    {fuel : Nat} (enough : entries.length < fuel) :
    readEntries row.readEntry false slots fuel
        (entries.flatMap (fun entry => ',' :: entryText entry) ++ '\x7d' :: rest)
      = .ok (last, rest) := by
  induction enters generalizing fuel with
  | nil =>
    obtain ⟨fuel, rfl⟩ : ∃ n, fuel = n + 1 := ⟨fuel - 1, by omega⟩
    rfl
  | @cons slots next last key v entries reader known read _ ih =>
    obtain ⟨fuel, rfl⟩ : ∃ n, fuel = n + 1 := ⟨fuel - 1, by omega⟩
    have delimited := delimited_flatMap entries entryText (.inr (.inr rfl)) rest
    rw [List.flatMap_cons, List.append_assoc, List.cons_append,
      readEntries_step (nextKey?_entryText (key, v) _).2
        ((congrFun (readEntry_known known) _).trans (read _ delimited)),
      ih (Nat.lt_of_succ_lt_succ enough)]

/-- Entries are read into their slots, up to the end of their object. -/
theorem Row.Enters.readEntries_joinText {α : Type} {row : Row α} {slots last : row.Slots}
    {entries : List (String × Value)} (enters : row.Enters slots entries last) (rest : List Char)
    {fuel : Nat} (enough : entries.length < fuel) :
    readEntries row.readEntry true slots fuel
        (joinText [','] (entries.map entryText) ++ '\x7d' :: rest)
      = .ok (last, rest) := by
  obtain ⟨fuel, rfl⟩ : ∃ n, fuel = n + 1 := ⟨fuel - 1, by omega⟩
  cases enters with
  | nil => rfl
  | @cons _ next _ key v entries reader known read behind =>
    have joined : joinText [','] (((key, v) :: entries).map entryText) ++ '\x7d' :: rest
        = entryText (key, v) ++
          (entries.flatMap (fun entry => ',' :: entryText entry) ++ '\x7d' :: rest) := by
      rw [List.map_cons, joinText_cons, List.flatMap_map, List.append_assoc]
      rfl
    have delimited := delimited_flatMap entries entryText (.inr (.inr rfl)) rest
    rw [joined, readEntries_step (nextKey?_entryText (key, v) _).1
        ((congrFun (readEntry_known known) _).trans (read _ delimited)),
      behind.readEntries_behind rest (Nat.lt_of_succ_lt_succ enough)]

/-- Values that are read back from what a row writes, whose keys are among the given ones. -/
structure Row.ReadsBack {α : Type} (row : Row α) (keys : List String) (a : α) : Prop where
  within : ∀ entry ∈ row.entries a, entry.1 ∈ keys
  read : ∃ slots, row.Enters row.empty (row.entries a) slots ∧ row.finish slots = .ok a

/-- Values of a field that are read back, or are the ones that a missing field has. -/
structure Field.ReadsBack {α : Type} (f : Field α) (a : α) : Prop where
  shown : f.hidden a = false → f.codec.ReadsBack a
  hidden : f.hidden a = true → f.absent = some a

theorem Row.nil_readsBack : Row.nil.ReadsBack [] () where
  within := nofun
  read := ⟨(), .nil, rfl⟩

/-- Entries of other fields leave a field as it is. -/
theorem Row.Enters.cons_other {α β : Type} {f : Field α} {row : Row β} {slots last : row.Slots}
    {entries : List (String × Value)} (enters : row.Enters slots entries last)
    (other : ∀ entry ∈ entries, entry.1 ≠ f.key) (slot : Option α) :
    (Row.cons f row).Enters (slot, slots) entries (slot, last) := by
  induction enters with
  | nil => exact .nil
  | @cons slots next last key v entries reader known read _ ih =>
    rw [List.forall_mem_cons] at other
    refine .cons ((if_neg other.1).trans (congrArg (Option.map _) known)) ?_
      (ih other.2)
    intro rest delimited
    simp only [read rest delimited, ok_bind]
    rfl

/-- A field and others are read back if their keys differ. -/
theorem Row.ReadsBack.cons {α β : Type} {f : Field α} {row : Row β} {keys : List String} {a : α}
    {b : β} (field : f.ReadsBack a) (others : row.ReadsBack keys b) (new : f.key ∉ keys) :
    (Row.cons f row).ReadsBack (f.key :: keys) (a, b) := by
  obtain ⟨within, slots, enters, finish⟩ := others
  have other : ∀ entry ∈ row.entries b, entry.1 ≠ f.key := by
    intro entry mem same
    exact new (same ▸ within entry mem)
  cases hidden : f.hidden a with
  | true =>
    have entries : (Row.cons f row).entries (a, b) = row.entries b := if_pos hidden
    have finished : (Row.cons f row).finish (none, slots) = .ok (a, b) := by
      simp only [Row.cons, Field.missing, field.hidden hidden, finish, ok_bind]
    refine ⟨?_, (none, slots), ?_, finished⟩
    · rw [entries]
      exact fun entry mem => List.mem_cons_of_mem _ (within entry mem)
    · rw [entries]
      exact enters.cons_other other none
  | false =>
    have entries : (Row.cons f row).entries (a, b)
        = (f.key, f.codec.toValue a) :: row.entries b := if_neg (by simp [hidden])
    have finished : (Row.cons f row).finish (some a, slots) = .ok (a, b) := by
      simp only [Row.cons, finish, ok_bind]
    refine ⟨?_, (some a, slots), ?_, finished⟩
    · rw [entries, List.forall_mem_cons]
      exact ⟨List.mem_cons_self, fun entry mem => List.mem_cons_of_mem _ (within entry mem)⟩
    · rw [entries]
      refine .cons (if_pos rfl) ?_
        (enters.cons_other other (some a))
      intro rest delimited
      have read := (field.shown hidden).read rest delimited
      -- The colon is read first; what is behind it is the text of the field.
      show f.codec.read (f.codec.text a ++ rest) >>= _ = _
      rw [read]
      rfl

theorem Codec.record_text {α : Type} (name : String) (row : Row α) (a : α) :
    (Codec.record name row).text a
      = '\x7b' :: (joinText [','] ((row.entries a).map entryText) ++ ['\x7d']) := by
  show '\x7b' :: joinText [','] (compactEntries (row.entries a)) ++ ['\x7d'] = _
  rw [compactEntries_eq_map]
  rfl

theorem Codec.record_read {α : Type} (name : String) (row : Row α) (text : List Char) :
    (Codec.record name row).read ('\x7b' :: text) = (do
      let (slots, rest) ← readEntries row.readEntry true row.empty (text.length + 1) text
      .ok (← row.finish slots, rest)) := rfl

/-- A record is read back if its row is. -/
theorem Codec.record_readsBack {α : Type} (name : String) {row : Row α} {keys : List String} {a : α}
    (back : row.ReadsBack keys a) : (Codec.record name row).ReadsBack a where
  opens := by
    rw [record_text]
    exact ⟨rfl, by decide⟩
  read rest _ := by
    obtain ⟨-, slots, enters, finish⟩ := back
    have enough := length_le_joinText ((row.entries a).map entryText)
    rw [List.length_map] at enough
    rw [record_text, List.cons_append, List.append_assoc, List.singleton_append, record_read,
      enters.readEntries_joinText rest (by rw [List.length_append, List.length_cons]; omega)]
    simp only [finish, ok_bind]

/-! ### Kinds of fields -/

theorem Field.required_readsBack {α : Type} (key : String) {codec : Codec α} {a : α}
    (back : codec.ReadsBack a) : (Field.required key codec).ReadsBack a where
  shown _ := back
  hidden := nofun

theorem Field.default_readsBack {α : Type} (key : String) (absent : α) {codec : Codec α} {a : α}
    (back : codec.ReadsBack a) : (Field.default key codec absent).ReadsBack a where
  shown _ := back
  hidden := nofun

theorem Field.optional_readsBack {α : Type} (key : String) {codec : Codec α} {a? : Option α}
    (back : ∀ a ∈ a?, codec.ReadsBack a ∧ (codec.text a).head? ≠ some 'n') :
    (Field.optional key codec).ReadsBack a? where
  shown there := by
    cases a? with
    | none => cases there
    | some a => exact Codec.option_readsBack (back a rfl).1 (back a rfl).2
  hidden absent := by
    cases a? with
    | none => rfl
    | some a => cases absent

theorem Field.optional_string_readsBack (key : String) (s? : Option String) :
    (Field.optional key .string).ReadsBack s? := by
  apply Field.optional_readsBack
  intro s _
  exact ⟨Codec.string_readsBack s, nofun⟩

end Draftsman.Json
