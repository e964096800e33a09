/-
Well-formed documents.

`IsDocument` is the grammar of XML 1.0 as far as elements, attributes and text go:
declarations, comments, processing instructions and sections of raw text, which nothing
here writes, are left out, so that fewer texts are documents.  Every character of a
document is one of those that XML allows (`IsDocument.legal`).  An element is written as a
document if it holds no other characters (`isDocument_block`).
-/
import Draftsman.Proofs.Markup.Token

namespace Draftsman.Markup

open Draftsman.Text

/-! ### The grammar -/

/-- The characters that a document may hold. -/
def legalRanges : Ranges :=
  [(0x9, 0xA), (0xD, 0xD), (0x20, 0xD7FF), (0xE000, 0xFFFD), (0x10000, 0x10FFFF)]

/-- Whether a document may hold a character. -/
def isLegal (c : Char) : Bool := legalRanges.covers c

/-- Texts of legal characters; the `reserved` ones may only stand there as entities. -/
inductive IsData (reserved : List Char) : List Char → Prop
  | nil : IsData reserved []
  | char {c : Char} {rest : List Char} (legal : isLegal c = true) (free : c ∉ reserved)
    (behind : IsData reserved rest) : IsData reserved (c :: rest)
  | entity {name rest : List Char} {c : Char} (known : (name, c) ∈ entities)
    (behind : IsData reserved rest) : IsData reserved ('&' :: name ++ ';' :: rest)

/-- Attributes with the given names, none of which is there twice. -/
inductive AreAttributes : List (List Char) → List Char → Prop
  | nil : AreAttributes [] []
  | cons {key value rest : List Char} {keys : List (List Char)} (named : isName key = true)
    (quoted : IsData ['<', '&', '"'] value) (new : key ∉ keys) (behind : AreAttributes keys rest) :
    AreAttributes (key :: keys) (' ' :: key ++ '=' :: '"' :: value ++ '"' :: rest)

/-- What may stand between the tags of an element. -/
inductive IsContent : List Char → Prop
  | data {text : List Char} (plain : IsData ['<', '&', '>'] text) : IsContent text
  | append {a b : List Char} (first : IsContent a) (second : IsContent b) : IsContent (a ++ b)
  | void {name attributes : List Char} {keys : List (List Char)} (named : isName name = true)
    (with_keys : AreAttributes keys attributes) :
    IsContent ('<' :: name ++ attributes ++ ['/', '>'])
  | element {name attributes inner : List Char} {keys : List (List Char)}
    (named : isName name = true) (with_keys : AreAttributes keys attributes)
    (inside : IsContent inner) :
    IsContent ('<' :: name ++ attributes ++ '>' :: inner ++ '<' :: '/' :: name ++ ['>'])

/-- Whether a text is a document: one element, and perhaps spaces behind it. -/
def IsDocument (text : List Char) : Prop :=
  ∃ (name attributes inner spaces : List Char) (keys : List (List Char)),
    isName name = true ∧ AreAttributes keys attributes ∧ IsContent inner ∧
      spaces ⊆ [' ', '\t', '\r', '\n'] ∧
      text = '<' :: name ++ attributes ++ '>' :: inner ++ '<' :: '/' :: name ++ '>' :: spaces

/-! ### The characters of a document -/

/-- Texts of legal characters. -/
def Legal (text : List Char) : Prop := ∀ c ∈ text, isLegal c = true

instance (text : List Char) : Decidable (Legal text) := List.decidableBAll _ text

/-- Strings of legal characters. -/
def LegalString (s : String) : Prop := Legal s.toList

instance (s : String) : Decidable (LegalString s) := inferInstanceAs (Decidable (Legal _))

theorem legalString_append (s t : String) :
    LegalString (s ++ t) ↔ LegalString s ∧ LegalString t := by
  unfold LegalString
  rw [String.toList_append]
  exact List.forall_mem_append

@[simp] theorem legal_nil : Legal [] := List.forall_mem_nil _

@[simp] theorem legal_append (a b : List Char) : Legal (a ++ b) ↔ Legal a ∧ Legal b :=
  List.forall_mem_append

@[simp] theorem legal_cons (c : Char) (text : List Char) :
    Legal (c :: text) ↔ isLegal c = true ∧ Legal text := List.forall_mem_cons

theorem covers_mono {small great : Ranges}
    (within : ∀ r ∈ small, ∃ s ∈ great, s.1 ≤ r.1 ∧ r.2 ≤ s.2) {c : Char}
    (h : small.covers c = true) : great.covers c = true := by
  simp only [Ranges.covers, List.any_eq_true, Bool.and_eq_true, decide_eq_true_eq] at h ⊢
  obtain ⟨r, mem, low, high⟩ := h
  obtain ⟨s, mem, lower, higher⟩ := within r mem
  exact ⟨s, mem, by omega, by omega⟩

theorem isLegal_of_isNameChar {c : Char} (h : isNameChar c = true) : isLegal c = true := by
  rw [isNameChar, Bool.or_eq_true] at h
  rcases h with h | h
  · exact covers_mono (by decide) h
  · exact covers_mono (by decide) h

theorem legal_of_isName {name : List Char} (h : isName name = true) : Legal name :=
  fun c mem => isLegal_of_isNameChar (isNameChar_of_isName h c mem)

/-- Entities are legal, and they stand for legal characters. -/
theorem legal_entities :
    ∀ entity ∈ entities, Legal ('&' :: entity.1 ++ [';']) ∧ isLegal entity.2 = true := by
  decide

theorem IsData.legal {reserved text : List Char} (h : IsData reserved text) : Legal text := by
  induction h with
  | nil => exact legal_nil
  | char legal _ _ ih => exact (legal_cons _ _).mpr ⟨legal, ih⟩
  | @entity name rest c known _ ih =>
    have whole := (legal_append _ _).mpr ⟨(legal_entities _ known).1, ih⟩
    rwa [List.append_assoc] at whole

theorem AreAttributes.legal {keys : List (List Char)} {text : List Char}
    (h : AreAttributes keys text) : Legal text := by
  induction h with
  | nil => exact legal_nil
  | cons named quoted _ _ ih =>
    have marks : isLegal ' ' = true ∧ isLegal '=' = true ∧ isLegal '"' = true := by decide
    simp [marks, legal_of_isName named, quoted.legal, ih]

/-- The marks that tags are made of. -/
theorem isLegal_marks : isLegal '<' = true ∧ isLegal '>' = true ∧ isLegal '/' = true := by decide

theorem IsContent.legal {text : List Char} (h : IsContent text) : Legal text := by
  induction h with
  | data plain => exact plain.legal
  | append _ _ first second => exact (legal_append _ _).mpr ⟨first, second⟩
  | void named with_keys => simp [isLegal_marks, legal_of_isName named, with_keys.legal]
  | element named with_keys _ ih =>
    simp [isLegal_marks, legal_of_isName named, with_keys.legal, ih]

/-- **Every character of a document is legal.** -/
theorem IsDocument.legal {text : List Char} (h : IsDocument text) : Legal text := by
  obtain ⟨name, attributes, inner, spaces, keys, named, with_keys, inside, blank, rfl⟩ := h
  have legal_spaces : Legal spaces := by
    intro c mem
    have space := blank mem
    simp only [List.mem_cons, List.not_mem_nil, or_false] at space
    rcases space with rfl | rfl | rfl | rfl <;> decide
  simp [isLegal_marks, legal_of_isName named, with_keys.legal, inside.legal, legal_spaces]

/-! ### Documents made of tokens -/

theorem legal_escapeChar (c : Char) : Legal (escapeChar c) ↔ isLegal c = true := by
  by_cases named : c ∈ special
  · obtain ⟨name, known, entity⟩ := escapeChar_of_special named
    obtain ⟨whole, legal⟩ := legal_entities _ known
    exact iff_of_true (entity ▸ whole) legal
  · rw [escapeChar_of_plain named]
    simp

/-- An escaped text is as legal as the text itself. -/
theorem legal_escape (text : List Char) : Legal (escape text) ↔ Legal text := by
  induction text with
  | nil => exact Iff.rfl
  | cons c text ih =>
    show Legal (escapeChar c ++ escape text) ↔ _
    rw [legal_append, legal_cons, legal_escapeChar, ih]

/-- A text is data when it is escaped, whichever of the escaped characters are reserved. -/
theorem isData_escape {reserved : List Char} (within : reserved ⊆ special) {text : List Char}
    (legal : Legal text) : IsData reserved (escape text) := by
  induction text with
  | nil => exact .nil
  | cons c text ih =>
    rw [legal_cons] at legal
    have behind := ih legal.2
    show IsData reserved (escapeChar c ++ escape text)
    by_cases named : c ∈ special
    · obtain ⟨name, known, entity⟩ := escapeChar_of_special named
      rw [entity, List.append_assoc]
      exact .entity known behind
    · rw [escapeChar_of_plain named]
      exact .char legal.1 (fun mem => named (within mem)) behind

theorem areAttributes_written {attributes : List Attribute}
    (named : ∀ key ∈ attributes.map Prod.fst, isName key.toList = true)
    (distinct : (attributes.map Prod.fst).Nodup)
    (legal : ∀ a ∈ attributes, LegalString a.2) :
    AreAttributes (attributes.map fun a => a.1.toList) (attributes.flatMap attributeText) := by
  induction attributes with
  | nil => exact .nil
  | cons a attributes ih =>
    rw [List.map_cons, List.forall_mem_cons] at named
    rw [List.map_cons, List.nodup_cons] at distinct
    rw [List.forall_mem_cons] at legal
    have value : IsData ['<', '&', '"'] (escape a.2.toList) := isData_escape (by decide) legal.1
    have new : a.1.toList ∉ attributes.map fun b => b.1.toList := by
      intro mem
      obtain ⟨b, mem, same⟩ := List.mem_map.mp mem
      exact distinct.1 (String.toList_inj.mp same ▸ List.mem_map_of_mem mem)
    have whole := AreAttributes.cons named.1 value new (ih named.2 distinct.2 legal.2)
    simpa [attributeText] using whole

/-- Tokens whose characters, texts and values are legal. -/
def Token.Legal : Token → Prop
  | .char c => isLegal c = true
  | .opening _ attributes => ∀ a ∈ attributes, LegalString a.2
  | .closing _ => True
  | .void _ attributes => ∀ a ∈ attributes, LegalString a.2

instance : DecidablePred Token.Legal
  | .char c => inferInstanceAs (Decidable (isLegal c = true))
  | .opening _ attributes => inferInstanceAs (Decidable (∀ a ∈ attributes, LegalString a.2))
  | .closing _ => isTrue trivial
  | .void _ attributes => inferInstanceAs (Decidable (∀ a ∈ attributes, LegalString a.2))

/-- Tokens all of which are legal. -/
def AllLegal (tokens : List Token) : Prop := ∀ t ∈ tokens, t.Legal

instance (tokens : List Token) : Decidable (AllLegal tokens) :=
  inferInstanceAs (Decidable (∀ _ ∈ _, _))

@[simp] theorem Token.legal_char (c : Char) : (Token.char c).Legal ↔ isLegal c = true := Iff.rfl

@[simp] theorem Token.legal_opening (name : String) (attributes : List Attribute) :
    (Token.opening name attributes).Legal ↔ ∀ a ∈ attributes, LegalString a.2 := Iff.rfl

@[simp] theorem Token.legal_closing (name : String) : (Token.closing name).Legal := trivial

@[simp] theorem Token.legal_void (name : String) (attributes : List Attribute) :
    (Token.void name attributes).Legal ↔ ∀ a ∈ attributes, LegalString a.2 := Iff.rfl

@[simp] theorem allLegal_nil : AllLegal [] := List.forall_mem_nil _

@[simp] theorem allLegal_cons (t : Token) (tokens : List Token) :
    AllLegal (t :: tokens) ↔ t.Legal ∧ AllLegal tokens := List.forall_mem_cons

@[simp] theorem allLegal_append (a b : List Token) :
    AllLegal (a ++ b) ↔ AllLegal a ∧ AllLegal b := List.forall_mem_append

theorem allLegal_textTokens (text : List Char) : AllLegal (textTokens text) ↔ Legal text :=
  List.forall_mem_map

@[simp] theorem allLegal_toList (s : String) : AllLegal (textTokens s.toList) ↔ LegalString s :=
  allLegal_textTokens s.toList

@[simp] theorem allLegal_lineTokens (depth : Nat) (tokens : List Token) :
    AllLegal (lineTokens depth tokens) ↔ AllLegal tokens := by
  have blanks : Legal (List.replicate (2 * depth) ' ') := by
    intro c mem
    rw [List.eq_of_mem_replicate mem]
    decide
  have ends : isLegal '\n' = true := by decide
  simp [lineTokens, indentation, allLegal_textTokens, blanks, ends]

theorem legal_tagText {name : String} {attributes : List Attribute}
    (tag : isTag name (attributes.map Prod.fst) = true) :
    Legal (tagText name attributes) ↔ ∀ a ∈ attributes, LegalString a.2 := by
  obtain ⟨named, keys, -⟩ := (isTag_iff _ _).mp tag
  have marks : isLegal ' ' = true ∧ isLegal '=' = true ∧ isLegal '"' = true := by decide
  have each : ∀ a ∈ attributes, Legal (attributeText a) ↔ LegalString a.2 := by
    intro a mem
    have key := legal_of_isName (keys a.1 (List.mem_map_of_mem mem))
    simp [attributeText, marks, key, legal_escape, LegalString]
  have all : Legal (attributes.flatMap attributeText) ↔ ∀ a ∈ attributes, LegalString a.2 := by
    constructor
    · intro h a mem
      exact (each a mem).mp fun c there => h c (List.mem_flatMap_of_mem mem there)
    · intro h c mem
      obtain ⟨a, mem, there⟩ := List.mem_flatMap.mp mem
      exact (each a mem).mpr (h a mem) c there
  rw [tagText, legal_append, all]
  exact and_iff_right (legal_of_isName named)

/-- A token is written with legal characters exactly if it is legal. -/
theorem Token.legal_written {t : Token} (proper : t.Proper) :
    Markup.Legal t.written ↔ t.Legal := by
  cases t with
  | char c => exact legal_escapeChar c
  | opening name attributes =>
    simp [Token.written, openTag, isLegal_marks, legal_tagText proper, Token.Legal]
  | closing name =>
    simp [Token.written, closeTag, isLegal_marks, legal_of_isName proper, Token.Legal]
  | void name attributes =>
    simp [Token.written, voidTag, isLegal_marks, legal_tagText proper, Token.Legal]

/-- **What tokens are written as is legal exactly if all of them are.** -/
theorem legal_written_iff {tokens : List Token} (proper : AllProper tokens) :
    Legal (written tokens) ↔ AllLegal tokens := by
  induction tokens with
  | nil => exact iff_of_true legal_nil allLegal_nil
  | cons t tokens ih =>
    rw [allProper_cons] at proper
    rw [written_cons, legal_append, allLegal_cons, Token.legal_written proper.1, ih proper.2]

/-- Nested tokens may stand between the tags of an element. -/
theorem Nested.isContent {tokens : List Token} (h : Nested tokens)
    (proper : AllProper tokens) (legal : AllLegal tokens) : IsContent (written tokens) := by
  induction h with
  | nil => exact .data .nil
  | @char c rest _ ih =>
    rw [allProper_cons] at proper
    rw [allLegal_cons] at legal
    have one : Legal [c] := (legal_cons c []).mpr ⟨legal.1, legal_nil⟩
    have data : IsData ['<', '&', '>'] (escape [c]) := isData_escape (by decide) one
    have := IsContent.append (.data data) (ih proper.2 legal.2)
    simpa [escape, Token.written] using this
  | @void name attributes rest _ ih =>
    rw [allProper_cons] at proper
    rw [allLegal_cons] at legal
    obtain ⟨named, keys, distinct⟩ := (isTag_iff _ _).mp proper.1
    have tag := IsContent.void named (areAttributes_written keys distinct legal.1)
    have := tag.append (ih proper.2 legal.2)
    simpa [Token.written, voidTag, tagText] using this
  | @element name attributes inner rest _ _ inside behind =>
    simp only [List.cons_append, allProper_cons, allProper_append, allLegal_cons,
      allLegal_append] at proper legal
    obtain ⟨opens, proper_inner, -, proper_rest⟩ := proper
    obtain ⟨values, legal_inner, -, legal_rest⟩ := legal
    obtain ⟨named, keys, distinct⟩ := (isTag_iff _ _).mp opens
    have whole := IsContent.element named (areAttributes_written keys distinct values)
      (inside proper_inner legal_inner)
    have := whole.append (behind proper_rest legal_rest)
    simpa [Token.written, openTag, closeTag, tagText] using this

/-- **An element on lines of its own is a document, if its tokens are proper and legal.** -/
theorem isDocument_block {name : String} {attributes : List Attribute} {children : List Element}
    (proper : AllProper ((Element.block name attributes children).tokens 0))
    (legal : AllLegal ((Element.block name attributes children).tokens 0)) :
    IsDocument ((Element.block name attributes children).lines 0) := by
  have nested : Nested (.char '\n' :: tokensOf 1 children) := .char (nested_tokensOf 1 children)
  have whole : (Element.block name attributes children).tokens 0
      = .opening name attributes :: (.char '\n' :: tokensOf 1 children) ++
        [.closing name, .char '\n'] := by
    simp [Element.tokens, lineTokens, indentation, textTokens]
  rw [← written_tokens, whole]
  rw [whole, allProper_append, allProper_cons] at proper
  rw [whole, allLegal_append, allLegal_cons] at legal
  obtain ⟨⟨opens, proper⟩, -⟩ := proper
  obtain ⟨⟨values, legal⟩, -⟩ := legal
  obtain ⟨named, keys, distinct⟩ := (isTag_iff _ _).mp opens
  refine ⟨name.toList, attributes.flatMap attributeText,
    written (.char '\n' :: tokensOf 1 children), ['\n'], _, named,
    areAttributes_written keys distinct values, nested.isContent proper legal, by decide, ?_⟩
  have feed : escapeChar '\n' = ['\n'] := rfl
  simp [Token.written, openTag, closeTag, tagText, feed]

end Draftsman.Markup
