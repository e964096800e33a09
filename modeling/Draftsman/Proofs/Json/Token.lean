/-
Strings that are read back.

A string is written character by character, each as itself, as a backslash and a letter, or
as a backslash and the four digits of its code point.  Whichever it is, one step of reading
takes it in again, so that a string is read back whatever it holds and whatever is behind it.
-/
import Draftsman.Json.Value
import Draftsman.Proofs.Text.Cut

namespace Draftsman.Json

theorem skipSpace_cons {c : Char} (solid : isSpace c = false) (text : List Char) :
    skipSpace (c :: text) = c :: text := List.dropWhile_cons_of_neg (by simp [solid])

/-! ### Characters -/

theorem hexDigit?_hexDigit : ∀ n < 16, hexDigit? (hexDigit n) = some n := by decide

/-- The digits of a control character are read as that character. -/
theorem readEscape_control {c : Char} (control : isControl c = true) (text : List Char) :
    readEscape ('u' :: '0' :: '0' :: hexDigit (c.toNat / 16) :: hexDigit (c.toNat % 16) :: text)
      = .ok (c, text) := by
  have small : c.toNat < 0x20 := by simpa [isControl] using control
  have high := hexDigit?_hexDigit (c.toNat / 16) (by omega)
  have low := hexDigit?_hexDigit (c.toNat % 16) (by omega)
  have zero : hexDigit? '0' = some 0 := rfl
  have unit : c.toNat / 16 * 16 + c.toNat % 16 = c.toNat := by omega
  have trailing : isTrailing c.toNat = false := by simp [isTrailing]; omega
  have leading : isLeading c.toNat = false := by simp [isLeading]; omega
  simp [readEscape, readCodePoint, readUnit, zero, high, low, unit, trailing, leading,
    Char.ofNat_toNat, bind, Except.bind]

theorem readChars_escaped {c : Char} {text behind : List Char}
    (read : readEscape text = .ok (c, behind)) (fuel : Nat) :
    readChars (fuel + 1) ('\\' :: text)
      = (readChars fuel behind).map fun (chars, rest) => (c :: chars, rest) := by
  cases found : readChars fuel behind <;>
    simp [readChars, read, found, bind, Except.bind, Except.map]

theorem readChars_plain {c : Char} (quote : c ≠ '"') (slash : c ≠ '\\')
    (plain : isControl c = false) (fuel : Nat) (text : List Char) :
    readChars (fuel + 1) (c :: text)
      = (readChars fuel text).map fun (chars, rest) => (c :: chars, rest) := by
  cases found : readChars fuel text <;>
    simp [readChars, quote, slash, plain, found, bind, Except.bind, Except.map]

/-- A character that is written is read in one step. -/
theorem readChars_charText (c : Char) (fuel : Nat) (text : List Char) :
    readChars (fuel + 1) (charText c ++ text)
      = (readChars fuel text).map fun (chars, rest) => (c :: chars, rest) := by
  unfold charText
  split
  case h_8 quote slash _ _ _ _ _ =>
    split
    · rename_i control
      exact readChars_escaped (readEscape_control control text) fuel
    · rename_i plain
      exact readChars_plain quote slash (by simpa using plain) fuel text
  -- The others have an escape of their own.
  all_goals exact readChars_escaped rfl fuel

theorem charText_ne_nil (c : Char) : charText c ≠ [] := by
  unfold charText
  split <;> simp
  split <;> simp

/-! ### Strings -/

/-- What stands behind the opening quote of a string, with the rest of the text. -/
def afterQuote (s : String) (rest : List Char) : List Char :=
  s.toList.flatMap charText ++ '"' :: rest

theorem readChars_flatMap (chars rest : List Char) {fuel : Nat} (enough : chars.length < fuel) :
    readChars fuel (chars.flatMap charText ++ '"' :: rest) = .ok (chars, rest) := by
  induction chars generalizing fuel with
  | nil =>
    obtain ⟨fuel, rfl⟩ : ∃ n, fuel = n + 1 := ⟨fuel - 1, by omega⟩
    rfl
  | cons c chars ih =>
    obtain ⟨fuel, rfl⟩ : ∃ n, fuel = n + 1 := ⟨fuel - 1, by omega⟩
    rw [List.flatMap_cons, List.append_assoc, readChars_charText,
      ih (Nat.lt_of_succ_lt_succ enough)]
    rfl

/-- **A string is read back, whatever it holds and whatever is behind it.** -/
theorem readString_afterQuote (s : String) (rest : List Char) :
    readString (afterQuote s rest) = .ok (s, rest) := by
  have enough : s.toList.length < (afterQuote s rest).length + 1 := by
    have : s.toList.length ≤ (s.toList.flatMap charText).length :=
      Text.length_le_flatMap fun c _ => charText_ne_nil c
    rw [afterQuote, List.length_append]
    omega
  have read := readChars_flatMap s.toList rest enough
  rw [← afterQuote] at read
  rw [readString, read]
  simp [bind, Except.bind]

theorem stringText_append (s : String) (rest : List Char) :
    stringText s ++ rest = '"' :: afterQuote s rest := by
  simp [stringText, afterQuote]

end Draftsman.Json
