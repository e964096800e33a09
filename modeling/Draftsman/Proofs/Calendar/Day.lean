/-
Days that are told by their number.

Four hundred years are four centuries, a century is twenty-five times four years, and years
begin in March.  So the last day of a year, the one that only some years have, is the last
day of its four years; and it is missing at the end of a century, unless that is the last one
of the four.  A day of the four hundred years is told by its century, its four years, its year
and its day of the year (`Spot`); the year and the month that are worked out for the number of
a day are the ones of its spot.
-/
import Draftsman.Calendar.Day

namespace Draftsman

/-! ### Days of four hundred years -/

/-- A day of four hundred years. -/
structure Spot where
  century : Nat
  /-- The four years of the century. -/
  fours : Nat
  /-- The year of the four. -/
  one : Nat
  /-- The day of the year, counted from March. -/
  day : Nat

/-- The spots that there are. -/
structure Spot.Exists (s : Spot) : Prop where
  century : s.century ≤ 3
  fours : s.fours ≤ 24
  one : s.one ≤ 3
  day : s.day ≤ 365
  /-- A year has a last day more only at the end of four years, and rarely at that of a century. -/
  last : s.day = 365 → s.one = 3 ∧ (s.fours = 24 → s.century = 3)

/-- The year of a spot. -/
def Spot.year (s : Spot) : Nat := 100 * s.century + 4 * s.fours + s.one

/-- How many days come before a spot. -/
def Spot.offset (s : Spot) : Nat := 36524 * s.century + 1461 * s.fours + 365 * s.one + s.day

/-- Every day of four hundred years has a spot. -/
theorem exists_spot {offset : Nat} (within : offset < 146097) :
    ∃ s : Spot, s.Exists ∧ s.offset = offset := by
  obtain ⟨century, inCentury, low, split, last⟩ : ∃ century inCentury, century ≤ 3 ∧
      offset = 36524 * century + inCentury ∧ inCentury ≤ 36524 ∧
        (inCentury = 36524 → century = 3) :=
    ⟨min (offset / 36524) 3, offset - 36524 * min (offset / 36524) 3,
      by omega, by omega, by omega, by omega⟩
  obtain ⟨fours, inFours, low', split', last'⟩ : ∃ fours inFours, fours ≤ 24 ∧
      inCentury = 1461 * fours + inFours ∧ inFours ≤ 1460 ∧
        (inFours = 1460 → fours = 24 → century = 3) :=
    ⟨inCentury / 1461, inCentury % 1461, by omega, by omega, by omega, by omega⟩
  obtain ⟨one, day, low'', split'', last''⟩ : ∃ one day, one ≤ 3 ∧
      inFours = 365 * one + day ∧ day ≤ 365 ∧ (day = 365 → one = 3) :=
    ⟨min (inFours / 365) 3, inFours - 365 * min (inFours / 365) 3,
      by omega, by omega, by omega, by omega⟩
  refine ⟨⟨century, fours, one, day⟩, ⟨low, low', low'', last''.1, fun leap => ?_⟩, ?_⟩
  · have leap : day = 365 := leap
    have final := last''.2 leap
    exact ⟨final, last'.2 (by omega)⟩
  · simp only [Spot.offset]
    omega

namespace Spot.Exists

variable {s : Spot}

theorem year_lt (ok : s.Exists) : s.year < 400 := by
  have := ok.century
  have := ok.fours
  have := ok.one
  unfold Spot.year
  omega

theorem offset_lt (ok : s.Exists) : s.offset < 146097 := by
  obtain ⟨century, fours, one, day, last⟩ := ok
  unfold Spot.offset
  omega

/-- The year that is worked out for a day is the one of its spot. -/
theorem year_of_offset (ok : s.Exists) :
    (s.offset - s.offset / 1460 + s.offset / 36524 - s.offset / 146096) / 365 = s.year := by
  obtain ⟨century, fours, one, day, last⟩ := ok
  obtain ⟨c, q, r, d⟩ := s
  simp only [Spot.offset, Spot.year] at *
  have days : (36524 * c + 1461 * q + 365 * r + d) / 1460
      = 25 * c + q + (24 * c + q + 365 * r + d) / 1460 := by omega
  have centuries : (36524 * c + 1461 * q + 365 * r + d) / 36524
      = c + (1461 * q + 365 * r + d) / 36524 := by omega
  rw [days, centuries]
  -- The one day that is longer than a century is the last of all four hundred years.
  by_cases final : 1461 * q + 365 * r + d = 36524
  · obtain rfl : c = 3 := by omega
    omega
  · have inside : (1461 * q + 365 * r + d) / 36524 = 0 := by omega
    have early : (36524 * c + 1461 * q + 365 * r + d) / 146096 = 0 := by omega
    rw [inside, early]
    obtain some | none : (24 * c + q + 365 * r + d) / 1460 = 1
        ∨ (24 * c + q + 365 * r + d) / 1460 = 0 := by omega
    · rw [some]
      omega
    · rw [none]
      omega

/-- The days before a year are the ones before the first spot of the year. -/
theorem days_before_year (ok : s.Exists) :
    365 * s.year + s.year / 4 - s.year / 100 + s.day = s.offset := by
  obtain ⟨century, fours, one, -, -⟩ := ok
  unfold Spot.offset Spot.year
  omega

end Spot.Exists

/-! ### Days of a year -/

/-- The month of a day of a year that begins in March, counted from March. -/
def monthIndexOf (inYear : Nat) : Nat := (5 * inYear + 2) / 153

/-- The month of a day of a year that begins in March. -/
def monthOf (inYear : Nat) : Nat :=
  if monthIndexOf inYear < 10 then monthIndexOf inYear + 3 else monthIndexOf inYear - 9

/-- The day of the month. -/
def dayOf (inYear : Nat) : Nat := inYear - (153 * monthIndexOf inYear + 2) / 5 + 1

/-- A day of a year is counted in its month, and there is such a day in that month. -/
theorem day_of_month : ∀ inYear < 366,
    1 ≤ monthOf inYear ∧ monthOf inYear ≤ 12 ∧ 1 ≤ dayOf inYear ∧ dayOf inYear ≤ 31 ∧
      daysBefore (monthOf inYear) + (dayOf inYear - 1) = inYear := by
  decide +kernel

/-- In February there are twenty-nine days at most, and the last one is the last of the year. -/
theorem day_le_monthLength : ∀ inYear < 366,
    (monthOf inYear ≠ 2 → dayOf inYear ≤ monthLength 0 (monthOf inYear)) ∧
      (monthOf inYear = 2 → dayOf inYear ≤ 28 ∨ inYear = 365 ∧ dayOf inYear = 29) := by
  decide +kernel

/-- The day of a spot in a cycle of four hundred years. -/
def Spot.on (s : Spot) (cycle : Int) : Day :=
  ⟨cycle * 400 + s.year + (if monthOf s.day ≤ 2 then 1 else 0), monthOf s.day, dayOf s.day⟩

theorem Spot.Exists.ofNumber {s : Spot} (ok : s.Exists) (cycle : Int) :
    Day.ofNumber (cycle * 146097 + s.offset - 719468) = s.on cycle := by
  have small := ok.offset_lt
  have shifted : cycle * 146097 + s.offset - 719468 + 719468 = cycle * 146097 + s.offset := by
    omega
  have whole : (cycle * 146097 + (s.offset : Int)).fdiv 146097 = cycle := by
    rw [Int.fdiv_eq_ediv_of_nonneg _ (by decide)]
    omega
  have left : (cycle * 146097 + (s.offset : Int) - cycle * 146097).toNat = s.offset := by omega
  have inYear : s.offset - (365 * s.year + s.year / 4 - s.year / 100) = s.day := by
    have := ok.days_before_year
    omega
  rw [Day.ofNumber]
  simp only [shifted, whole, left, ok.year_of_offset, inYear]
  rfl

/-- The number of a day of a spot. -/
theorem Spot.Exists.number {s : Spot} (ok : s.Exists) (cycle : Int) :
    (s.on cycle).number = cycle * 146097 + s.offset - 719468 := by
  obtain ⟨-, -, -, -, counted⟩ := day_of_month s.day (by have := ok.day; omega)
  have small := ok.year_lt
  have march : (s.on cycle).marchYear = cycle * 400 + s.year := by
    unfold Day.marchYear Spot.on
    split
    · exact Int.add_sub_cancel _ 1
    · exact Int.add_zero _
  have whole : (cycle * 400 + (s.year : Int)).fdiv 400 = cycle := by
    rw [Int.fdiv_eq_ediv_of_nonneg _ (by decide)]
    omega
  have left : (cycle * 400 + (s.year : Int) - cycle * 400).toNat = s.year := by omega
  have offset : s.year * 365 + s.year / 4 - s.year / 100 + daysBefore (monthOf s.day)
      + (dayOf s.day - 1) = s.offset := by
    have := ok.days_before_year
    omega
  rw [Day.number, march]
  simp only [whole, left]
  change cycle * 146097 + ((s.year * 365 + s.year / 4 - s.year / 100 + daysBefore (monthOf s.day)
      + (dayOf s.day - 1) : Nat) : Int) - 719468 = _
  rw [offset]

/-- There is such a day. -/
theorem Spot.Exists.exists_on {s : Spot} (ok : s.Exists) (cycle : Int) :
    (s.on cycle).exists = true := by
  have within : s.day < 366 := by
    have := ok.day
    omega
  obtain ⟨low, high, first, -, -⟩ := day_of_month s.day within
  obtain ⟨others, february⟩ := day_le_monthLength s.day within
  have length : dayOf s.day ≤ monthLength (s.on cycle).year (monthOf s.day) := by
    by_cases second : monthOf s.day = 2
    · rcases february second with usual | ⟨leap, last⟩
      · rw [second, monthLength, if_pos rfl]
        split <;> omega
      · have year : (s.on cycle).year = cycle * 400 + s.year + 1 := by
          rw [on, second]
          rfl
        have four : isLeapYear (s.on cycle).year = true := by
          obtain ⟨one, century⟩ := ok.last leap
          have := ok.century
          have := ok.fours
          rw [year, isLeapYear, Bool.and_eq_true, Bool.or_eq_true, beq_iff_eq, bne_iff_ne,
            beq_iff_eq]
          unfold Spot.year
          omega
        have full : monthLength (s.on cycle).year 2 = 29 := by
          rw [monthLength, if_pos rfl, four, if_pos rfl]
        rw [second]
        omega
    · have same : monthLength (s.on cycle).year (monthOf s.day)
          = monthLength 0 (monthOf s.day) := by
        rw [monthLength, monthLength, if_neg second, if_neg second]
      rw [same]
      exact others second
  simp only [Day.exists, Bool.and_eq_true, decide_eq_true_eq]
  exact ⟨⟨⟨low, high⟩, first⟩, length⟩

/-! ### Every number -/

/-- Every number is that of a spot in a cycle. -/
theorem exists_spot_on (n : Int) :
    ∃ (s : Spot) (cycle : Int), s.Exists ∧ n = cycle * 146097 + s.offset - 719468 := by
  obtain ⟨s, ok, same⟩ := exists_spot (show ((n + 719468) % 146097).toNat < 146097 by omega)
  exact ⟨s, (n + 719468) / 146097, ok, by omega⟩

/-- **A day is told by its number.** -/
theorem Day.number_ofNumber (n : Int) : (Day.ofNumber n).number = n := by
  obtain ⟨s, cycle, ok, rfl⟩ := exists_spot_on n
  rw [ok.ofNumber, ok.number]

/-- Every number is that of a day that there is. -/
theorem Day.exists_ofNumber (n : Int) : (Day.ofNumber n).exists = true := by
  obtain ⟨s, cycle, ok, rfl⟩ := exists_spot_on n
  rw [ok.ofNumber, ok.exists_on]

/-- The month and the day of a number have two digits at most. -/
theorem Day.bounds_ofNumber (n : Int) :
    1 ≤ (Day.ofNumber n).month ∧ (Day.ofNumber n).month ≤ 12 ∧
      1 ≤ (Day.ofNumber n).day ∧ (Day.ofNumber n).day ≤ 31 := by
  obtain ⟨s, cycle, ok, rfl⟩ := exists_spot_on n
  obtain ⟨low, high, first, last, -⟩ := day_of_month s.day (by have := ok.day; omega)
  rw [ok.ofNumber]
  exact ⟨low, high, first, last⟩

end Draftsman
