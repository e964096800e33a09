/-
Texts in their composed form.

The same text can be written in several ways: a letter and its accent as one
character or as two, several accents in one order or another.  The composed form is
one of these ways: every character is taken apart, the marks behind a letter are
brought into the order of their classes, and then letters and marks are put together
again as far as there are characters for both.
-/
import Draftsman.Text.Composition
import Draftsman.Text.Marks

namespace Draftsman.Text

/-! ### Syllables, which are made of two or three letters by a rule -/

/-- The first syllable. -/
def firstSyllable : Nat := 0xAC00

/-- How many syllables there are. -/
def syllableCount : Nat := 11172

/-- The letters that begin a syllable: the first of them, and how many there are. -/
def openings : Nat × Nat := (0x1100, 19)

/-- The letters in the middle of a syllable. -/
def middles : Nat × Nat := (0x1161, 21)

/-- The letters that end a syllable, of which there may be none: the first stands for that. -/
def endings : Nat × Nat := (0x11A7, 28)

/-- The place of a code point among letters, if it is one of them. -/
def placeIn? (letters : Nat × Nat) (n : Nat) : Option Nat :=
  if letters.1 ≤ n ∧ n < letters.1 + letters.2 then some (n - letters.1) else none

/-- The letters of a syllable. -/
def lettersOf? (n : Nat) : Option (List Nat) :=
  (placeIn? (firstSyllable, syllableCount) n).map fun place =>
    let last := place % endings.2
    [openings.1 + place / (middles.2 * endings.2),
      middles.1 + place / endings.2 % middles.2] ++
        (if last = 0 then [] else [endings.1 + last])

/-- The syllable of two letters, or of a syllable and the letter that ends it. -/
def syllable? (a b : Nat) : Option Nat :=
  match placeIn? openings a, placeIn? middles b with
  | some opening, some middle =>
    some (firstSyllable + (opening * middles.2 + middle) * endings.2)
  | _, _ =>
    match placeIn? (firstSyllable, syllableCount) a, placeIn? endings b with
    | some place, some ending =>
      if place % endings.2 = 0 ∧ ending ≠ 0 then some (a + ending) else none
    | _, _ => none

/-! ### Taking apart -/

/-- The parts of a code point, which may have parts themselves. -/
def partsOf? (n : Nat) : Option (List Nat) :=
  ((lettersOf? n).or (rowOf? composites n)).or (rowOf? replaceables n)

/-- The last parts of a code point; `levels` bounds how often parts have parts. -/
def takenApart : (levels : Nat) → Nat → List Nat
  | 0, n => [n]
  | levels + 1, n =>
    match partsOf? n with
    | some parts => parts.flatMap (takenApart levels)
    | none => [n]

/-- How often parts may have parts: a letter with three marks in one character has them thrice. -/
def partLevels : Nat := 4

/-- A character taken apart; one below 0xC0 has no parts. -/
def decompose (c : Char) : List Char :=
  if c.toNat < 0xC0 then [c] else (takenApart partLevels c.toNat).map Char.ofNat

/-! ### Putting in order -/

/-- A text, last character first, with one more character behind the marks of its class. -/
def placeMark (c : Char) : List Char → List Char
  | [] => [c]
  | before :: rest =>
    if markClass c ≠ 0 ∧ markClass c < markClass before then before :: placeMark c rest
    else c :: before :: rest

/-- A text with its marks in the order of their classes. -/
def inOrder (text : List Char) : List Char :=
  (text.foldl (fun done c => placeMark c done) []).reverse

/-! ### Putting together -/

/-- The character of two characters, if there is one. -/
def together? (a b : Char) : Option Char :=
  let row := composites.find? fun row => row.tail == [a.toNat, b.toNat]
  ((syllable? a.toNat b.toNat).or (row.bind List.head?)).map Char.ofNat

/-- A text of which some characters have been put together. -/
structure Composed where
  /-- What cannot change any more, last character first. -/
  done : List Char
  /-- The character that later ones may be put together with. -/
  base : Option Char
  /-- The marks behind it, last first, that it could not be put together with. -/
  marks : List Char

/-- All characters, last first. -/
def Composed.all (t : Composed) : List Char := t.marks ++ t.base.toList ++ t.done

/-- Whether no mark keeps a character from being put together with the base. -/
def Composed.reaches (t : Composed) (c : Char) : Bool :=
  match t.marks.head? with
  | none => true
  | some before => markClass before < markClass c

/-- The text with one more character. -/
def Composed.add (t : Composed) (c : Char) : Composed :=
  match (if t.reaches c then t.base.bind fun base => together? base c else none) with
  | some both => { t with base := some both }
  | none =>
    if markClass c = 0 then ⟨t.all, some c, []⟩ else { t with marks := c :: t.marks }

/-- A text whose characters are put together as far as possible. -/
def compose (text : List Char) : List Char :=
  (text.foldl Composed.add ⟨[], none, []⟩).all.reverse

/-- The composed form of a text. -/
def normal (text : List Char) : List Char := compose (inOrder (text.flatMap decompose))

end Draftsman.Text
