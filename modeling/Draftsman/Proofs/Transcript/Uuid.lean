/-
Identifiers that are read back.

An identifier is written as its 32 digits in five groups.  Nothing that some programs put
around an identifier begins with a digit, so the groups are taken for what they are; without
the hyphens between them they are the digits again, and the digits are read as the number
that they were written for.
-/
import Draftsman.Proofs.Number.Digits
import Draftsman.Transcript.Uuid

namespace Draftsman.Uuid

open Draftsman.Number Draftsman.Text

/-! ### Digits -/

/-- The value of a hexadecimal digit, and zero for any other character. -/
def hexValue (c : Char) : Nat := (hexValue? c).getD 0

theorem hexValue?_digitChar : ∀ d < 16, hexValue? d.digitChar = some d := by decide

theorem hexValue?_of_mem {count n : Nat} {c : Char} (mem : c ∈ hexDigits count n) :
    hexValue? c = some (hexValue c) := by
  rcases List.mem_append.mp mem with zero | digit
  · rw [List.eq_of_mem_replicate zero]
    rfl
  · obtain ⟨d, small, rfl⟩ := exists_digit_of_mem (by decide) digit
    rw [hexValue, hexValue?_digitChar d small, Option.getD_some]

/-- Digits that all have a value are read as their number. -/
theorem hexNumber?_eq {ds : List Char} (valued : ∀ c ∈ ds, hexValue? c = some (hexValue c)) :
    hexNumber? ds = some (numeral hexValue 16 0 ds) := by
  unfold hexNumber?
  generalize 0 = before
  induction ds generalizing before with
  | nil => rfl
  | cons c ds ih =>
    rw [List.forall_mem_cons] at valued
    rw [List.foldlM_cons, valued.1]
    exact ih valued.2 _

theorem hexNumber?_hexDigits (count n : Nat) : hexNumber? (hexDigits count n) = some n := by
  have values : ∀ d < 16, hexValue d.digitChar = d := by
    intro d small
    rw [hexValue, hexValue?_digitChar d small, Option.getD_some]
  rw [hexNumber?_eq fun c => hexValue?_of_mem]
  refine congrArg some ?_
  have zero : hexValue '0' = 0 := rfl
  exact (numeral_zeros zero _ _).trans (numeral_toDigits (by decide) values n)

theorem length_hexDigits {count n : Nat} (some : 0 < count) (fits : n < 16 ^ count) :
    (hexDigits count n).length = count := by
  have few := (Nat.length_toDigits_le_iff (b := 16) (by decide) some).mpr fits
  rw [hexDigits, List.length_append, List.length_replicate]
  omega

/-! ### Groups -/

/-- Groups of digits are put together again. -/
theorem joined?_hyphenated {lengths : List Nat} {ds : List Char} (some : lengths ≠ [])
    (whole : ds.length = lengths.foldr (· + ·) 0) :
    joined? lengths (hyphenated lengths ds) = .some ds := by
  induction lengths, ds using hyphenated.induct with
  | case1 ds => exact absurd rfl some
  | case2 n ds =>
    change ds.length = n at whole
    rw [hyphenated, joined?, if_pos whole]
  | case3 n rest ds more ih =>
    have more : rest ≠ [] := more
    rw [List.foldr_cons] at whole
    have length : (ds.take n).length = n := List.length_take_of_le (by omega)
    have below := ih more (by rw [List.length_drop]; omega)
    have left : (ds.take n ++ '-' :: hyphenated rest (ds.drop n)).drop n
        = '-' :: hyphenated rest (ds.drop n) := List.drop_left' length
    have taken : (ds.take n ++ '-' :: hyphenated rest (ds.drop n)).take n = ds.take n :=
      List.take_left' length
    rw [hyphenated.eq_3 _ _ _ more, joined?.eq_3 _ _ _ more, left, taken]
    simp only [below, Option.map_some, List.take_append_drop]

theorem length_hyphenated (lengths : List Nat) (ds : List Char) :
    (hyphenated lengths ds).length = ds.length + (lengths.length - 1) := by
  induction lengths, ds using hyphenated.induct with
  | case1 ds => rfl
  | case2 n ds => rfl
  | case3 n rest ds more ih =>
    have more : 0 < rest.length := List.length_pos_iff.mpr more
    rw [hyphenated.eq_3 _ _ _ (List.length_pos_iff.mp more), List.length_append, List.length_cons,
      ih, List.length_take, List.length_drop, List.length_cons]
    omega

/-! ### What is around an identifier -/

/-- Nothing is taken off a text that begins with a digit. -/
theorem wrapped_of_digit {c : Char} {rest : List Char} (digit : (hexValue? c).isSome = true) :
    Wrapped.of (c :: rest) = ⟨c :: rest, 0, true⟩ := by
  have unbraced : unbraced? (c :: rest) = none := by
    have other : '\x7b' ≠ c := by
      rintro rfl
      cases digit
    rw [unbraced?, dropPrefix?, if_neg other]
    rfl
  have unschemed : unschemed? (c :: rest) = none := by
    refine if_neg fun same => ?_
    have first : c.toLower = 'u' := (List.cons.inj same).1
    rw [hexValue?, first] at digit
    cases digit
  rw [Wrapped.of, unbraced, unschemed]

/-- **An identifier is read back.** -/
theorem parse_toText (u : Uuid) : parse u.toText = .ok u := by
  have fits : u.bits.toNat < 16 ^ 32 := u.bits.isLt
  have length := length_hexDigits (by decide) fits
  have joined := joined?_hyphenated (show groups ≠ [] by decide) length
  have long : (hyphenated groups (hexDigits 32 u.bits.toNat)).length = 36 := by
    rw [length_hyphenated, length]
    rfl
  have digit : ∃ c rest, hyphenated groups (hexDigits 32 u.bits.toNat) = c :: rest ∧
      (hexValue? c).isSome = true := by
    obtain ⟨c, rest, begins⟩ := List.exists_cons_of_length_pos (by rw [length]; decide)
    have valued := hexValue?_of_mem (begins ▸ List.mem_cons_self)
    exact ⟨c, _, by rw [begins]; rfl, by rw [valued]; rfl⟩
  obtain ⟨c, rest, begins, digit⟩ := digit
  have bare : Wrapped.of (hyphenated groups (hexDigits 32 u.bits.toNat))
      = ⟨hyphenated groups (hexDigits 32 u.bits.toNat), 0, true⟩ := by
    rw [begins, wrapped_of_digit digit]
  have digits : (Wrapped.of (hyphenated groups (hexDigits 32 u.bits.toNat))).digits?
      = some (hexDigits 32 u.bits.toNat) := by
    rw [bare, Wrapped.digits?, if_neg (by rw [long]; simp), joined]
  rw [parse, toText, String.toList_ofList, read]
  simp only [digits, Option.bind_some, hexNumber?_hexDigits, BitVec.ofNat_toNat, BitVec.setWidth_eq]
  rfl

end Draftsman.Uuid
