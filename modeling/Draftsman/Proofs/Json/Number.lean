/-
Natural numbers that are read back.

A natural number is written as its decimal digits.  They are read up to where another
character stands, and they are taken for a whole number as long as that fits in 64 bits; so
every number that a codec for natural numbers accepts is read back.
-/
import Draftsman.Proofs.Json.Codec
import Draftsman.Proofs.Number.Digits

namespace Draftsman.Json

open Draftsman.Number

/-- Digits are taken up as long as their number fits in 64 bits. -/
theorem absorb_of_le {significand : Nat} {ds : List Char}
    (fits : numeral digitValue 10 significand ds ≤ maxWord) :
    absorb significand ds = (numeral digitValue 10 significand ds, []) := by
  induction ds generalizing significand with
  | nil => rfl
  | cons d ds ih =>
    have next : significand * 10 + digitValue d ≤ maxWord :=
      Nat.le_trans (le_numeral (by decide) _ ds) fits
    rw [absorb, if_pos next]
    exact ih fits

theorem Delimited.not_digit {c : Char} {rest : List Char} (delimited : Delimited (c :: rest)) :
    isDigit c = false ∧ c ≠ '.' ∧ c ≠ 'e' ∧ c ≠ 'E' := by
  obtain rfl | rfl | rfl := delimited <;> decide

theorem spanDigits_digits (n : Nat) {rest : List Char} (delimited : Delimited rest) :
    spanDigits (digits n ++ rest) = (digits n, rest) := by
  have all : ∀ c ∈ digits n, isDigit c = true := fun c mem => isDigit_of_mem_digits mem
  rw [spanDigits, List.takeWhile_append_of_pos all, List.dropWhile_append_of_pos all]
  cases rest with
  | nil => simp
  | cons c rest =>
    have stops : ¬ isDigit c = true := by simp [delimited.not_digit.1]
    rw [List.takeWhile_cons_of_neg stops, List.dropWhile_cons_of_neg stops, List.append_nil]

/-- The digits of a number that fits in 64 bits are read as that number. -/
theorem readAfterWhole_digits {n : Nat} (fits : n ≤ maxWord) {rest : List Char}
    (delimited : Delimited rest) :
    readAfterWhole false (digits n) rest = .ok (.whole n, rest) := by
  have all : numeral digitValue 10 0 (digits n) = n := numeral_digits n
  have absorbed : absorb 0 (digits n) = (n, []) := by
    rw [absorb_of_le (by rwa [all]), all]
  rw [readAfterWhole, absorbed]
  dsimp only
  cases rest with
  | nil => rfl
  | cons c rest =>
    obtain ⟨-, point, small, large⟩ := delimited.not_digit
    split
    · rename_i eq
      cases eq
      exact absurd rfl point
    · rename_i eq
      cases eq
      exact absurd rfl small
    · rename_i eq
      cases eq
      exact absurd rfl large
    · rfl

theorem readUnsigned_digits {n : Nat} (fits : n ≤ maxWord) {rest : List Char}
    (delimited : Delimited rest) :
    readUnsigned false (digits n ++ rest) = .ok (.whole n, rest) := by
  have read := readAfterWhole_digits fits delimited
  rw [readUnsigned, spanDigits_digits n delimited]
  obtain zero | ⟨c, more, begins, other⟩ := digits_shape n
  · rw [zero] at read ⊢
    exact read
  · rw [begins] at read ⊢
    split
    · rename_i eq
      cases eq
    · rename_i eq
      cases eq
    · rename_i eq
      cases eq
      exact absurd rfl other
    · rename_i eq
      cases eq
      exact read

theorem opens_digits (n : Nat) : Opens (digits n) := by
  obtain ⟨c, rest, begins⟩ := List.exists_cons_of_ne_nil (digits_ne_nil n)
  have digit : c.isDigit = true := isDigit_of_mem_digits (by rw [begins]; exact List.mem_cons_self)
  rw [begins]
  constructor
  · rw [Bool.eq_false_iff]
    intro space
    simp only [isSpace, Bool.or_eq_true, beq_iff_eq] at space
    rcases space with ((rfl | rfl) | rfl) | rfl <;> cases digit
  · rintro rfl
    cases digit

theorem readNumber_digits (wanted : String) {n : Nat} (fits : n ≤ maxWord) {rest : List Char}
    (delimited : Delimited rest) :
    readNumber wanted (digits n ++ rest) = .ok (.whole n, rest) := by
  have read := readUnsigned_digits fits delimited
  have opens := (opens_digits n).append rest
  obtain ⟨c, more, begins⟩ := List.exists_cons_of_ne_nil (digits_ne_nil n)
  have digit : c.isDigit = true := isDigit_of_mem_digits (by rw [begins]; exact List.mem_cons_self)
  rw [readNumber, opens.skipSpace]
  rw [begins, List.cons_append] at read ⊢
  split
  · rename_i eq
    cases eq
    cases digit
  · rename_i eq
    cases eq
    exact (if_pos digit).trans read
  · rename_i eq
    cases eq

/-- A natural number up to the limit is read back. -/
theorem Codec.natural_readsBack (wanted : String) {limit n : Nat} (word : limit ≤ maxWord)
    (within : n ≤ limit) : (Codec.natural wanted limit).ReadsBack n where
  opens := opens_digits n
  read rest delimited := by
    have read := readNumber_digits wanted (Nat.le_trans within word) delimited
    have accepted : naturalOf wanted limit (.whole n) = .ok n := by
      rw [naturalOf, if_pos ⟨Int.natCast_nonneg n, Int.ofNat_le.mpr within⟩, Int.toNat_natCast]
    show (readNumber wanted (digits n ++ rest) >>= _) = _
    simp only [read, ok_bind, accepted]

theorem Codec.count_readsBack {n : Nat} (fits : n ≤ maxWord) : Codec.count.ReadsBack n :=
  Codec.natural_readsBack "usize" (Nat.le_refl _) fits

theorem Codec.word32_readsBack (n : UInt32) : Codec.word32.ReadsBack n :=
  Codec.ReadsBack.map UInt32.ofNat_toNat
    (Codec.natural_readsBack "u32" (by decide) (Nat.le_of_lt_succ n.toNat_lt))

end Draftsman.Json
