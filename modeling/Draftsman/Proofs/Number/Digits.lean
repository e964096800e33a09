/-
Digits that are read as the number they were written for.

The digits of a number are the ones of what is left of it without its last digit, and then
that digit.  Reading them from left to right undoes this step by step, whatever characters
the digits are, as long as each has its value; zeros before them make no difference.
-/
import Mathlib.Algebra.Group.Nat.Defs
import Draftsman.Number.Decimal

namespace Draftsman.Number

/-- The number that digits stand for when they are read behind those of another. -/
def numeral (value : Char → Nat) (base before : Nat) (ds : List Char) : Nat :=
  ds.foldl (fun n d => n * base + value d) before

section Numeral

variable {value : Char → Nat} {base : Nat}

/-- **The digits of a number stand for it.** -/
theorem numeral_toDigits (large : 1 < base) (values : ∀ d < base, value d.digitChar = d) (n : Nat) :
    numeral value base 0 (Nat.toDigits base n) = n := by
  induction n using Nat.strongRecOn with
  | _ n ih =>
    rw [Nat.toDigits_eq_if large]
    split
    · rename_i small
      simp [numeral, values n small]
    · rename_i great
      have less : n / base < n := Nat.div_lt_self (by omega) large
      have last := values (n % base) (Nat.mod_lt n (by omega))
      have before := ih (n / base) less
      rw [numeral] at before ⊢
      rw [List.foldl_append, before, List.foldl_cons, List.foldl_nil, last, Nat.mul_comm]
      exact Nat.div_add_mod n base

/-- Each digit of a number is that of a number below the base. -/
theorem exists_digit_of_mem (large : 1 < base) {n : Nat} {c : Char}
    (mem : c ∈ Nat.toDigits base n) : ∃ d < base, c = d.digitChar := by
  induction n using Nat.strongRecOn with
  | _ n ih =>
    rw [Nat.toDigits_eq_if large] at mem
    split at mem
    · rename_i small
      exact ⟨n, small, List.mem_singleton.mp mem⟩
    · rename_i great
      rcases List.mem_append.mp mem with before | last
      · exact ih (n / base) (Nat.div_lt_self (by omega) large) before
      · exact ⟨n % base, Nat.mod_lt n (by omega), List.mem_singleton.mp last⟩

theorem numeral_zeros (zero : value '0' = 0) (count : Nat) (ds : List Char) :
    numeral value base 0 (zeros count ++ ds) = numeral value base 0 ds := by
  induction count with
  | zero => rfl
  | succ count ih =>
    rw [zeros, List.replicate_succ, List.cons_append, ← zeros, numeral, List.foldl_cons, zero,
      Nat.zero_mul]
    exact ih

/-- More digits do not make a number smaller. -/
theorem le_numeral (large : 0 < base) (before : Nat) (ds : List Char) :
    before ≤ numeral value base before ds := by
  induction ds generalizing before with
  | nil => exact Nat.le_refl _
  | cons d ds ih =>
    have longer : before ≤ before * base + value d :=
      Nat.le_trans (Nat.le_mul_of_pos_right before large) (Nat.le_add_right _ _)
    exact Nat.le_trans longer (ih _)

/-- A number has no more digits than it was written with. -/
theorem numeral_lt (before : Nat) {ds : List Char} (values : ∀ c ∈ ds, value c < base) :
    numeral value base before ds < (before + 1) * base ^ ds.length := by
  induction ds generalizing before with
  | nil =>
    rw [List.length_nil, Nat.pow_zero, Nat.mul_one]
    exact Nat.lt_succ_self before
  | cons d ds ih =>
    rw [List.forall_mem_cons] at values
    have next : before * base + value d + 1 ≤ (before + 1) * base := by
      rw [Nat.add_mul, Nat.one_mul]
      omega
    calc numeral value base (before * base + value d) ds
        < (before * base + value d + 1) * base ^ ds.length := ih _ values.2
      _ ≤ (before + 1) * base * base ^ ds.length := Nat.mul_le_mul_right _ next
      _ = (before + 1) * base ^ (ds.length + 1) := by rw [Nat.mul_assoc, Nat.pow_succ']

end Numeral

/-! ### Decimal digits -/

/-- The value of a decimal digit. -/
def decimalValue (c : Char) : Nat := c.toNat - '0'.toNat

theorem decimalValue_digitChar : ∀ d < 10, decimalValue d.digitChar = d := by decide

theorem numeral_digits (n : Nat) : numeral decimalValue 10 0 (digits n) = n :=
  numeral_toDigits (by decide) decimalValue_digitChar n

theorem isDigit_of_mem_digits {n : Nat} {c : Char} (mem : c ∈ digits n) : c.isDigit = true :=
  Nat.isDigit_of_mem_toDigits (by decide) (by decide) mem

theorem digits_ne_nil (n : Nat) : digits n ≠ [] := Nat.toDigits_ne_nil

theorem length_digits_le_iff {n count : Nat} (some : 0 < count) :
    (digits n).length ≤ count ↔ n < 10 ^ count := Nat.length_toDigits_le_iff (by decide) some

/-- Only zero begins with a zero. -/
theorem head?_digits {n : Nat} (positive : 0 < n) : (digits n).head? ≠ some '0' := by
  have digit : ∀ d < 10, 0 < d → d.digitChar ≠ '0' := by decide
  induction n using Nat.strongRecOn with
  | _ n ih =>
    rw [digits, Nat.toDigits_eq_if (by decide)]
    split
    · rename_i small
      simpa using digit n small positive
    · have fewer := ih (n / 10) (by omega) (by omega)
      have some := List.exists_cons_of_ne_nil (digits_ne_nil (n / 10))
      obtain ⟨c, rest, begins⟩ := some
      rw [begins] at fewer
      rw [← digits, begins]
      exact fewer

/-- A number of one digit, or the first digit of a number is not zero. -/
theorem digits_shape (n : Nat) : digits n = ['0'] ∨ ∃ c rest, digits n = c :: rest ∧ c ≠ '0' := by
  cases n with
  | zero => exact .inl rfl
  | succ n =>
    have other := head?_digits (Nat.succ_pos n)
    obtain ⟨c, rest, begins⟩ := List.exists_cons_of_ne_nil (digits_ne_nil (n + 1))
    rw [begins] at other
    exact .inr ⟨c, rest, begins, fun same => other (congrArg some same)⟩

end Draftsman.Number
