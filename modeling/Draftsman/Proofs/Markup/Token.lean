/-
Markup as its readers see it.

A reader of markup sees characters and tags, one after the other.  `tokens?` is such a
reader: it knows nothing of how a document was made, takes an entity for the character it
stands for, and gives up at the first thing that is no markup.  What an element is written
as is read as its own tokens again (`tokens?_written`), whatever characters its texts and
values hold; so no text can pass for a tag, and no value can end its attribute.
-/
import Draftsman.Diagram.Markup
import Draftsman.Text.Ranges
import Draftsman.Proofs.Text.Cut

namespace Draftsman.Markup

open Draftsman.Text

/-! ### Names -/

/-- The characters that a name may begin with. -/
def nameStartRanges : Ranges :=
  [(0x3A, 0x3A), (0x41, 0x5A), (0x5F, 0x5F), (0x61, 0x7A), (0xC0, 0xD6), (0xD8, 0xF6),
    (0xF8, 0x2FF), (0x370, 0x37D), (0x37F, 0x1FFF), (0x200C, 0x200D), (0x2070, 0x218F),
    (0x2C00, 0x2FEF), (0x3001, 0xD7FF), (0xF900, 0xFDCF), (0xFDF0, 0xFFFD), (0x10000, 0xEFFFF)]

/-- The further characters that a name may hold. -/
def nameRestRanges : Ranges :=
  [(0x2D, 0x2E), (0x30, 0x39), (0xB7, 0xB7), (0x300, 0x36F), (0x203F, 0x2040)]

/-- Whether a character may stand in a name. -/
def isNameChar (c : Char) : Bool := nameStartRanges.covers c || nameRestRanges.covers c

/-- Whether a text is a name. -/
def isName : List Char → Bool
  | [] => false
  | c :: rest => nameStartRanges.covers c && rest.all isNameChar

/-! ### Reading -/

/-- What a reader sees: a character of a text, or a tag. -/
inductive Token where
  | char (c : Char)
  | opening (name : String) (attributes : List Attribute)
  | closing (name : String)
  | void (name : String) (attributes : List Attribute)
  deriving DecidableEq, Repr

/-- The entities, by name. -/
def entities : List (List Char × Char) :=
  [("amp".toList, '&'), ("lt".toList, '<'), ("gt".toList, '>'), ("quot".toList, '"'),
    ("apos".toList, '\'')]

/-- Reads a character of a text or of a value. -/
def readChar? : List Char → Option (Char × List Char)
  | [] => none
  | '<' :: _ => none
  | '&' :: rest => do
    let (name, rest) ← cut ';' rest
    some (← entities.lookup name, rest)
  | c :: rest => some (c, rest)

/-- Reads one thing after the other up to the end of a text; `fuel` bounds how many. -/
def readAll? {α : Type} (read? : List Char → Option (α × List Char)) :
    (fuel : Nat) → List Char → Option (List α)
  | _, [] => some []
  | 0, _ :: _ => none
  | fuel + 1, c :: text => do
    let (a, rest) ← read? (c :: text)
    some (a :: (← readAll? read? fuel rest))

/-- The characters that a text or a value stands for. -/
def unescape? (text : List Char) : Option (List Char) := readAll? readChar? text.length text

/-- Reads a name. -/
def readName? (text : List Char) : Option (String × List Char) :=
  let name := text.takeWhile isNameChar
  if isName name then some (String.ofList name, text.dropWhile isNameChar) else none

/-- Reads what follows the name of an attribute: the value between its quotes. -/
def readValue? : List Char → Option (String × List Char)
  | '=' :: '"' :: text => do
    let (value, rest) ← cut '"' text
    some (String.ofList (← unescape? value), rest)
  | _ => none

/-- Reads attributes, each behind a space; `fuel` bounds how many. -/
def readAttributes? : (fuel : Nat) → List Char → Option (List Attribute × List Char)
  | fuel + 1, ' ' :: text => do
    let (name, text) ← readName? text
    let (value, text) ← readValue? text
    let (others, rest) ← readAttributes? fuel text
    some ((name, value) :: others, rest)
  | _, text => some ([], text)

/-- Reads a closing tag, after its first two characters. -/
def readClosing? (text : List Char) : Option (Token × List Char) := do
  match ← readName? text with
  | (name, '>' :: rest) => some (.closing name, rest)
  | _ => none

/-- Reads a name and attributes. -/
def readTagText? (text : List Char) : Option (String × List Attribute × List Char) := do
  let (name, text) ← readName? text
  some (name, ← readAttributes? text.length text)

/-- Reads a tag that is no closing one, after its first character. -/
def readOpening? (text : List Char) : Option (Token × List Char) := do
  match ← readTagText? text with
  | (name, attributes, '>' :: rest) => some (.opening name attributes, rest)
  | (name, attributes, '/' :: '>' :: rest) => some (.void name attributes, rest)
  | _ => none

/-- Reads a character or a tag. -/
def readToken? : List Char → Option (Token × List Char)
  | '<' :: '/' :: text => readClosing? text
  | '<' :: text => readOpening? text
  | text => (readChar? text).map fun (c, rest) => (.char c, rest)

/-- The characters and tags of a document. -/
def tokens? (text : List Char) : Option (List Token) := readAll? readToken? text.length text

/-! ### Writing -/

/-- Whether names are those of a tag and of its attributes: no attribute is there twice. -/
def isTag (name : String) (keys : List String) : Bool :=
  isName name.toList && keys.all (fun key => isName key.toList) && decide keys.Nodup

/-- Tokens with names that are names. -/
def Token.Proper : Token → Prop
  | .char _ => True
  | .opening name attributes => isTag name (attributes.map Prod.fst) = true
  | .closing name => isName name.toList = true
  | .void name attributes => isTag name (attributes.map Prod.fst) = true

/-- Tokens all of whose names are names. -/
def AllProper (tokens : List Token) : Prop := ∀ t ∈ tokens, t.Proper

/-- A token as it is written. -/
def Token.written : Token → List Char
  | .char c => escapeChar c
  | .opening name attributes => openTag name attributes
  | .closing name => closeTag name
  | .void name attributes => voidTag name attributes

/-- Tokens as they are written. -/
def written (tokens : List Token) : List Char := tokens.flatMap Token.written

/-- A text as its tokens. -/
def textTokens (text : List Char) : List Token := text.map .char

@[simp] theorem written_append (a b : List Token) : written (a ++ b) = written a ++ written b :=
  List.flatMap_append

@[simp] theorem written_nil : written [] = [] := rfl

@[simp] theorem written_cons (t : Token) (tokens : List Token) :
    written (t :: tokens) = t.written ++ written tokens := rfl

@[simp] theorem written_textTokens (text : List Char) :
    written (textTokens text) = escape text := by
  simp [written, textTokens, escape, List.flatMap_map, Token.written]

@[simp] theorem Token.proper_char (c : Char) : (Token.char c).Proper := trivial

@[simp] theorem Token.proper_opening (name : String) (attributes : List Attribute) :
    (Token.opening name attributes).Proper ↔ isTag name (attributes.map Prod.fst) = true := Iff.rfl

@[simp] theorem Token.proper_closing (name : String) :
    (Token.closing name).Proper ↔ isName name.toList = true := Iff.rfl

@[simp] theorem Token.proper_void (name : String) (attributes : List Attribute) :
    (Token.void name attributes).Proper ↔ isTag name (attributes.map Prod.fst) = true := Iff.rfl

@[simp] theorem allProper_nil : AllProper [] := List.forall_mem_nil _

@[simp] theorem allProper_cons (t : Token) (tokens : List Token) :
    AllProper (t :: tokens) ↔ t.Proper ∧ AllProper tokens := List.forall_mem_cons

@[simp] theorem allProper_append (a b : List Token) :
    AllProper (a ++ b) ↔ AllProper a ∧ AllProper b := List.forall_mem_append

@[simp] theorem allProper_textTokens (text : List Char) : AllProper (textTokens text) :=
  List.forall_mem_map.mpr fun _ _ => trivial

/-! ### Reading what was written -/

/-- Things that are each read back, whatever is behind them, are read back together. -/
theorem readAll?_flatMap {α : Type} {read? : List Char → Option (α × List Char)}
    {write : α → List Char} {as : List α}
    (back : ∀ a ∈ as, ∀ rest, read? (write a ++ rest) = some (a, rest))
    (some_text : ∀ a ∈ as, write a ≠ []) {fuel : Nat} (enough : as.length ≤ fuel) :
    readAll? read? fuel (as.flatMap write) = some as := by
  induction as generalizing fuel with
  | nil => cases fuel <;> rfl
  | cons a as ih =>
    rw [List.forall_mem_cons] at back some_text
    obtain ⟨c, text, begins⟩ := List.exists_cons_of_ne_nil some_text.1
    obtain ⟨fuel, rfl⟩ : ∃ n, fuel = n + 1 := ⟨fuel - 1, by rw [List.length_cons] at enough; omega⟩
    have first := back.1 (as.flatMap write)
    rw [begins, List.cons_append] at first
    have others := ih back.2 some_text.2 (Nat.le_of_succ_le_succ enough)
    rw [List.flatMap_cons, begins, List.cons_append, readAll?, first]
    simp [others]

/-- The characters that are written as entities. -/
abbrev special : List Char := ['&', '<', '>', '"', '\'']

theorem escapeChar_of_plain {c : Char} (h : c ∉ special) : escapeChar c = [c] := by
  simp only [List.mem_cons, List.not_mem_nil, or_false, not_or] at h
  unfold escapeChar
  split <;> simp_all

/-- A special character is written as its entity. -/
theorem escapeChar_of_special {c : Char} (h : c ∈ special) :
    ∃ name, (name, c) ∈ entities ∧ escapeChar c = '&' :: name ++ [';'] := by
  simp only [List.mem_cons, List.not_mem_nil, or_false] at h
  rcases h with rfl | rfl | rfl | rfl | rfl
  · exact ⟨"amp".toList, by decide, rfl⟩
  · exact ⟨"lt".toList, by decide, rfl⟩
  · exact ⟨"gt".toList, by decide, rfl⟩
  · exact ⟨"quot".toList, by decide, rfl⟩
  · exact ⟨"apos".toList, by decide, rfl⟩

theorem escapeChar_ne_nil (c : Char) : escapeChar c ≠ [] := by
  unfold escapeChar
  split <;> simp

/-- Entities are known by their names, which end where the semicolon stands. -/
theorem entities_known :
    ∀ entity ∈ entities, ';' ∉ entity.1 ∧ entities.lookup entity.1 = some entity.2 := by
  decide

/-- An escaped character is read as that character. -/
theorem readChar?_escapeChar (c : Char) (rest : List Char) :
    readChar? (escapeChar c ++ rest) = some (c, rest) := by
  by_cases named : c ∈ special
  · obtain ⟨name, mem, entity⟩ := escapeChar_of_special named
    obtain ⟨ends, known⟩ := entities_known _ mem
    simp only [entity, List.cons_append, List.append_assoc, List.nil_append, readChar?,
      cut_append ends, known, Option.bind_eq_bind, Option.bind_some]
  · rw [escapeChar_of_plain named, List.singleton_append]
    simp only [List.mem_cons, List.not_mem_nil, or_false, not_or] at named
    unfold readChar?
    split <;> simp_all

/-- **A text that was escaped is read as that text.** -/
theorem unescape?_escape (text : List Char) : unescape? (escape text) = some text :=
  readAll?_flatMap (fun c _ => readChar?_escapeChar c) (fun c _ => escapeChar_ne_nil c)
    (length_le_flatMap fun c _ => escapeChar_ne_nil c)

/-- What is escaped holds neither a bracket nor a quote. -/
theorem not_mem_escape {c : Char} (mark : c ∈ ['<', '>', '"', '\'']) (text : List Char) :
    c ∉ escape text := by
  have apart : ∀ entity ∈ entities,
      ('&' :: entity.1 ++ [';']).all (· ∉ ['<', '>', '"', '\'']) = true := by decide
  intro mem
  obtain ⟨x, -, mem⟩ := List.mem_flatMap.mp mem
  by_cases named : x ∈ special
  · obtain ⟨name, known, entity⟩ := escapeChar_of_special named
    have free := List.all_eq_true.mp (apart _ known) c (entity ▸ mem)
    exact of_decide_eq_true free mark
  · rw [escapeChar_of_plain named, List.mem_singleton] at mem
    subst mem
    exact named (List.mem_cons_of_mem _ mark)

theorem isNameChar_of_isName {name : List Char} (h : isName name = true) :
    ∀ c ∈ name, isNameChar c = true := by
  intro c mem
  cases name with
  | nil => cases mem
  | cons first rest =>
    rw [isName, Bool.and_eq_true, List.all_eq_true] at h
    rcases List.mem_cons.mp mem with rfl | mem
    · rw [isNameChar, h.1, Bool.true_or]
    · exact h.2 c mem

/-- A name is read up to the first character that may not stand in one. -/
theorem readName?_append {name : String} (h : isName name.toList = true) {c : Char}
    (ends : isNameChar c = false) (rest : List Char) :
    readName? (name.toList ++ c :: rest) = some (name, c :: rest) := by
  have chars := isNameChar_of_isName h
  unfold readName?
  rw [List.takeWhile_append_of_pos chars, List.dropWhile_append_of_pos chars,
    List.takeWhile_cons_of_neg (by simp [ends]), List.dropWhile_cons_of_neg (by simp [ends]),
    List.append_nil]
  simp [h]

/-- A value is read up to its closing quote. -/
theorem readValue?_escape (value : String) (rest : List Char) :
    readValue? ('=' :: '"' :: escape value.toList ++ '"' :: rest) = some (value, rest) := by
  have value_ends : cut '"' (escape value.toList ++ '"' :: rest)
      = some (escape value.toList, rest) := cut_append (not_mem_escape (by decide) _) rest
  simp [readValue?, value_ends, unescape?_escape]

/-- Attributes are read up to something that does not begin with a space. -/
theorem readAttributes?_append {attributes : List Attribute}
    (names : ∀ a ∈ attributes, isName a.1.toList = true) {c : Char} (ends : c ≠ ' ')
    (rest : List Char) {fuel : Nat} (enough : attributes.length ≤ fuel) :
    readAttributes? fuel (attributes.flatMap attributeText ++ c :: rest)
      = some (attributes, c :: rest) := by
  induction attributes generalizing fuel with
  | nil =>
    unfold readAttributes?
    split
    · simp_all
    · rfl
  | cons a attributes ih =>
    rw [List.forall_mem_cons] at names
    obtain ⟨fuel, rfl⟩ : ∃ n, fuel = n + 1 := ⟨fuel - 1, by rw [List.length_cons] at enough; omega⟩
    have others := ih names.2 (Nat.le_of_succ_le_succ enough)
    have name := readName?_append names.1 (c := '=') (by decide)
      ('"' :: escape a.2.toList ++ '"' :: (attributes.flatMap attributeText ++ c :: rest))
    have value := readValue?_escape a.2 (attributes.flatMap attributeText ++ c :: rest)
    simp only [List.cons_append] at name value
    simp [attributeText, readAttributes?, name, value, others]

theorem isTag_iff (name : String) (keys : List String) :
    isTag name keys = true ↔
      isName name.toList = true ∧ (∀ key ∈ keys, isName key.toList = true) ∧ keys.Nodup := by
  simp [isTag, and_assoc]

theorem attributes_length_le (attributes : List Attribute) :
    attributes.length ≤ (attributes.flatMap attributeText).length :=
  length_le_flatMap fun a _ => by simp [attributeText]

/-- The name and the attributes of a tag are read up to what ends it. -/
theorem readTagText?_append {name : String} {attributes : List Attribute}
    (tag : isTag name (attributes.map Prod.fst) = true) {c : Char} (ends : c ∈ ['/', '>'])
    (rest : List Char) :
    readTagText? (tagText name attributes ++ c :: rest) = some (name, attributes, c :: rest) := by
  obtain ⟨is_name, keys, -⟩ := (isTag_iff _ _).mp tag
  simp only [List.forall_mem_map] at keys
  have plain : isNameChar c = false ∧ c ≠ ' ' := by
    simp only [List.mem_cons, List.not_mem_nil, or_false] at ends
    rcases ends with rfl | rfl <;> decide
  -- Whether there are attributes or not, what is behind the name cannot belong to it.
  obtain ⟨next, more, behind, not_name⟩ : ∃ next more,
      attributes.flatMap attributeText ++ c :: rest = next :: more ∧ isNameChar next = false := by
    cases attributes with
    | nil => exact ⟨c, rest, rfl, plain.1⟩
    | cons a attributes => exact ⟨' ', _, rfl, by decide⟩
  have first := readName?_append is_name not_name more
  rw [← behind] at first
  have enough : attributes.length ≤ (attributes.flatMap attributeText ++ c :: rest).length := by
    have := attributes_length_le attributes
    rw [List.length_append]
    omega
  have second := readAttributes?_append keys plain.2 rest enough
  rw [tagText, List.append_assoc, readTagText?, first]
  simp only [Option.bind_eq_bind, Option.bind_some, second]

/-- No tag begins as a closing one does unless it is one. -/
theorem tagText_ne_slash {name : String} {keys : List String} (tag : isTag name keys = true)
    (attributes : List Attribute) (rest : List Char) :
    ∃ c text, c ≠ '/' ∧ tagText name attributes ++ rest = c :: text := by
  obtain ⟨is_name, -⟩ := (isTag_iff _ _).mp tag
  obtain ⟨c, text, begins⟩ : ∃ c text, name.toList = c :: text := by
    cases h : name.toList with
    | nil => simp [h, isName] at is_name
    | cons c text => exact ⟨c, text, rfl⟩
  refine ⟨c, text ++ attributes.flatMap attributeText ++ rest, ?_, by simp [tagText, begins]⟩
  rintro rfl
  have := isNameChar_of_isName is_name '/' (begins ▸ List.mem_cons_self)
  revert this
  decide

theorem readToken?_tag {c : Char} (other : c ≠ '/') (text : List Char) :
    readToken? ('<' :: c :: text) = readOpening? (c :: text) := by
  unfold readToken?
  split <;> simp_all

/-- A token is read back, whatever is behind it. -/
theorem readToken?_written {t : Token} (proper : t.Proper) (rest : List Char) :
    readToken? (t.written ++ rest) = some (t, rest) := by
  cases t with
  | char c =>
    have char := readChar?_escapeChar c rest
    unfold readToken?
    split
    · rename_i text begins
      rw [show (Token.char c).written = escapeChar c from rfl] at begins
      simp [begins, readChar?] at char
    · rename_i text _ begins
      rw [show (Token.char c).written = escapeChar c from rfl] at begins
      simp [begins, readChar?] at char
    · rw [show (Token.char c).written = escapeChar c from rfl, char]
      rfl
  | opening name attributes =>
    have found := readTagText?_append proper (c := '>') (by decide) rest
    obtain ⟨c, text, other, begins⟩ := tagText_ne_slash proper attributes ('>' :: rest)
    rw [begins] at found
    simp [Token.written, openTag, begins, readToken?_tag other, readOpening?, found]
  | closing name =>
    have found := readName?_append proper (c := '>') (by decide) rest
    simp [Token.written, closeTag, readToken?, readClosing?, found]
  | void name attributes =>
    have found := readTagText?_append proper (c := '/') (by decide) ('>' :: rest)
    obtain ⟨c, text, other, begins⟩ := tagText_ne_slash proper attributes ('/' :: '>' :: rest)
    rw [begins] at found
    simp [Token.written, voidTag, begins, readToken?_tag other, readOpening?, found]

theorem Token.written_ne_nil (t : Token) : t.written ≠ [] := by
  cases t with
  | char c => exact escapeChar_ne_nil c
  | opening name attributes => simp [Token.written, openTag]
  | closing name => simp [Token.written, closeTag]
  | void name attributes => simp [Token.written, voidTag]

/-- **What tokens are written as is read as these tokens again.** -/
theorem tokens?_written {tokens : List Token} (proper : AllProper tokens) :
    tokens? (written tokens) = some tokens :=
  readAll?_flatMap (fun t mem => readToken?_written (proper t mem))
    (fun t _ => t.written_ne_nil) (length_le_flatMap fun t _ => t.written_ne_nil)

/-! ### The tokens of an element -/

/-- The blanks at the beginning of a line. -/
def indentation (depth : Nat) : List Token := textTokens (List.replicate (2 * depth) ' ')

/-- A line of a document as its tokens. -/
def lineTokens (depth : Nat) (tokens : List Token) : List Token :=
  indentation depth ++ tokens ++ [.char '\n']

mutual

/-- The tokens of an element on the line it stands on. -/
def Element.inlineTokens : Element → List Token
  | .void name attributes => [.void name attributes]
  | .text name attributes content =>
    .opening name attributes :: textTokens content.toList ++ [.closing name]
  | .inline name attributes children =>
    .opening name attributes :: inlineTokensOf children ++ [.closing name]
  | .block name attributes children =>
    .opening name attributes :: inlineTokensOf children ++ [.closing name]

/-- The tokens of elements on the line they stand on. -/
def inlineTokensOf : List Element → List Token
  | [] => []
  | e :: rest => e.inlineTokens ++ inlineTokensOf rest

end

mutual

/-- The tokens of an element on lines of its own, `depth` levels deep. -/
def Element.tokens (depth : Nat) : Element → List Token
  | .block name attributes children =>
    lineTokens depth [.opening name attributes] ++ tokensOf (depth + 1) children ++
      lineTokens depth [.closing name]
  | .void name attributes => lineTokens depth [.void name attributes]
  | .text name attributes content =>
    lineTokens depth (.opening name attributes :: textTokens content.toList ++ [.closing name])
  | .inline name attributes children =>
    lineTokens depth (.opening name attributes :: inlineTokensOf children ++ [.closing name])

/-- The tokens of elements on lines of their own. -/
def tokensOf (depth : Nat) : List Element → List Token
  | [] => []
  | e :: rest => e.tokens depth ++ tokensOf depth rest

end

theorem tokensOf_append (depth : Nat) (a b : List Element) :
    tokensOf depth (a ++ b) = tokensOf depth a ++ tokensOf depth b := by
  induction a with
  | nil => rfl
  | cons e a ih => simp [tokensOf, ih]

theorem written_lineTokens (depth : Nat) (tokens : List Token) :
    written (lineTokens depth tokens) = lineAt depth (written tokens) := by
  have blanks : ∀ n, escape (List.replicate n ' ') = List.replicate n ' ' := by
    intro n
    induction n with
    | zero => rfl
    | succ n ih =>
      rw [List.replicate_succ]
      exact congrArg (' ' :: ·) ih
  simp only [lineTokens, indentation, lineAt, written_append, written_textTokens, blanks]
  rfl

@[simp] theorem allProper_lineTokens (depth : Nat) (tokens : List Token) :
    AllProper (lineTokens depth tokens) ↔ AllProper tokens := by
  simp [lineTokens, indentation]

mutual

theorem written_inlineTokens : (e : Element) → written e.inlineTokens = e.inlineText
  | .void name attributes => by simp [Element.inlineTokens, Element.inlineText, Token.written]
  | .text name attributes content => by
    simp [Element.inlineTokens, Element.inlineText, Token.written]
  | .inline name attributes children => by
    simp [Element.inlineTokens, Element.inlineText, Token.written,
      written_inlineTokensOf children]
  | .block name attributes children => by
    simp [Element.inlineTokens, Element.inlineText, Token.written,
      written_inlineTokensOf children]

theorem written_inlineTokensOf : (es : List Element) → written (inlineTokensOf es) = inlineTexts es
  | [] => rfl
  | e :: rest => by
    simp [inlineTokensOf, inlineTexts, written_inlineTokens e, written_inlineTokensOf rest]

end

mutual

/-- An element is written as its tokens are. -/
theorem written_tokens (depth : Nat) : (e : Element) → written (e.tokens depth) = e.lines depth
  | .void name attributes => by
    simp [Element.tokens, Element.lines, written_lineTokens, Token.written]
  | .text name attributes content => by
    simp [Element.tokens, Element.lines, written_lineTokens, Token.written]
  | .inline name attributes children => by
    simp [Element.tokens, Element.lines, written_lineTokens, Token.written,
      written_inlineTokensOf children]
  | .block name attributes children => by
    simp [Element.tokens, Element.lines, written_lineTokens, Token.written,
      written_tokensOf (depth + 1) children]

theorem written_tokensOf (depth : Nat) :
    (es : List Element) → written (tokensOf depth es) = linesOf depth es
  | [] => rfl
  | e :: rest => by
    simp [tokensOf, linesOf, written_tokens depth e, written_tokensOf depth rest]

end

/-! ### Nesting -/

/-- Tokens of which every opening tag has its closing one behind it, and no tag is left over. -/
inductive Nested : List Token → Prop
  | nil : Nested []
  | char {c : Char} {rest : List Token} (h : Nested rest) : Nested (.char c :: rest)
  | void {name : String} {attributes : List Attribute} {rest : List Token} (h : Nested rest) :
    Nested (.void name attributes :: rest)
  | element {name : String} {attributes : List Attribute} {inner rest : List Token}
    (inside : Nested inner) (behind : Nested rest) :
    Nested (.opening name attributes :: inner ++ .closing name :: rest)

theorem Nested.append {a b : List Token} (ha : Nested a) (hb : Nested b) : Nested (a ++ b) := by
  induction ha with
  | nil => exact hb
  | char _ ih => exact .char ih
  | void _ ih => exact .void ih
  | element inside _ _ ih =>
    rw [List.append_assoc, List.cons_append]
    exact .element inside ih

theorem nested_textTokens (text : List Char) : Nested (textTokens text) := by
  induction text with
  | nil => exact .nil
  | cons c text ih => exact .char ih

theorem Nested.line {tokens : List Token} (depth : Nat) (h : Nested tokens) :
    Nested (lineTokens depth tokens) :=
  ((nested_textTokens _).append h).append (.char .nil)

mutual

theorem nested_inlineTokens : (e : Element) → Nested e.inlineTokens
  | .void _ _ => .void .nil
  | .text _ _ content => .element (nested_textTokens content.toList) .nil
  | .inline _ _ children => .element (nested_inlineTokensOf children) .nil
  | .block _ _ children => .element (nested_inlineTokensOf children) .nil

theorem nested_inlineTokensOf : (es : List Element) → Nested (inlineTokensOf es)
  | [] => .nil
  | e :: rest => (nested_inlineTokens e).append (nested_inlineTokensOf rest)

end

mutual

/-- The tokens of an element are nested. -/
theorem nested_tokens (depth : Nat) : (e : Element) → Nested (e.tokens depth)
  | .void _ _ => Nested.line depth (.void .nil)
  | .text _ _ content => Nested.line depth (.element (nested_textTokens content.toList) .nil)
  | .inline _ _ children => Nested.line depth (.element (nested_inlineTokensOf children) .nil)
  | .block name attributes children => by
    -- The two tags stand on lines of their own, with blanks around them.
    have blanks : Nested (indentation depth) := nested_textTokens _
    have inner : Nested (.char '\n' :: tokensOf (depth + 1) children ++ indentation depth) :=
      .char ((nested_tokensOf (depth + 1) children).append blanks)
    have behind : Nested [.char '\n'] := .char .nil
    have whole : Nested (indentation depth ++ (.opening name attributes ::
        (.char '\n' :: tokensOf (depth + 1) children ++ indentation depth) ++
          .closing name :: [.char '\n'])) := blanks.append (.element inner behind)
    simpa [Element.tokens, lineTokens] using whole

theorem nested_tokensOf (depth : Nat) : (es : List Element) → Nested (tokensOf depth es)
  | [] => .nil
  | e :: rest => (nested_tokens depth e).append (nested_tokensOf depth rest)

end

end Draftsman.Markup
