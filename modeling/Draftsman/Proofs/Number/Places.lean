/-
The characters that numbers are written with.

A number with a fixed count of decimal places holds digits, a point and a sign, and those
that are no finite number are words; whatever the number is, there is nothing else in it.
-/
import Draftsman.Number.Places

namespace Draftsman.Number

/-- The characters of written numbers. -/
def IsMark (c : Char) : Prop := c.isDigit = true ∨ c ∈ "-.infNa".toList

theorem isMark_of_mem_digits {n : Nat} {c : Char} (mem : c ∈ digits n) : IsMark c :=
  .inl (Nat.isDigit_of_mem_toDigits (by decide) (by decide) mem)

theorem isMark_of_mem_withPoint {places : Nat} {ds : List Char} (marks : ∀ c ∈ ds, IsMark c) :
    ∀ c ∈ withPoint places ds, IsMark c := by
  intro c mem
  have padded : ∀ c ∈ zeros (places + 1 - ds.length) ++ ds, IsMark c := by
    intro c mem
    rcases List.mem_append.mp mem with zero | digit
    · rw [List.eq_of_mem_replicate zero]
      exact .inl (by decide)
    · exact marks c digit
  unfold withPoint at mem
  split at mem
  · exact padded c mem
  · rcases List.mem_append.mp mem with whole | mem
    · exact padded c (List.mem_of_mem_take whole)
    · rcases List.mem_cons.mp mem with rfl | part
      · exact .inr (by decide)
      · exact padded c (List.mem_of_mem_drop part)

theorem isMark_of_mem_signText {negative : Bool} {c : Char} (mem : c ∈ signText negative) :
    IsMark c := by
  cases negative with
  | false => cases mem
  | true =>
    rw [List.mem_singleton.mp mem]
    exact .inr (by decide)

theorem isMark_of_mem_withPlaces {places : Nat} {b : Binary} :
    ∀ c ∈ b.withPlaces places, IsMark c := by
  intro c mem
  cases b with
  | finite negative significand exponent =>
    rcases List.mem_append.mp mem with sign | number
    · exact isMark_of_mem_signText sign
    · exact isMark_of_mem_withPoint (fun _ digit => isMark_of_mem_digits digit) c number
  | infinite negative =>
    rcases List.mem_append.mp mem with sign | word
    · exact isMark_of_mem_signText sign
    · exact .inr ((by decide : "inf".toList ⊆ "-.infNa".toList) word)
  | nan => exact .inr ((by decide : "NaN".toList ⊆ "-.infNa".toList) mem)

/-- A number with decimal places holds nothing but the characters of numbers. -/
theorem isMark_of_mem_fixed (places : Nat) (x : Float) :
    ∀ c ∈ (fixed places x).toList, IsMark c := by
  rw [fixed, String.toList_ofList]
  exact isMark_of_mem_withPlaces

end Draftsman.Number
