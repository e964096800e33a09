/-
Days of the calendar.

A day is a year, a month and a day of the month.  Days are counted from the
beginning of 1970; the count is taken in years that begin in March, so that a day
that only some years have is the last of its year.
-/
namespace Draftsman

/-- A day of the calendar. -/
structure Day where
  year : Int
  month : Nat
  day : Nat
  deriving DecidableEq, Repr

/-- Whether a year has 366 days. -/
def isLeapYear (year : Int) : Bool :=
  year % 4 == 0 && (year % 100 != 0 || year % 400 == 0)

/-- How many days a month has. -/
def monthLength (year : Int) (month : Nat) : Nat :=
  if month = 2 then if isLeapYear year then 29 else 28
  else if month = 4 ∨ month = 6 ∨ month = 9 ∨ month = 11 then 30
  else 31

/-- Whether there is such a day. -/
def Day.exists (d : Day) : Bool :=
  1 ≤ d.month && d.month ≤ 12 && 1 ≤ d.day && d.day ≤ monthLength d.year d.month

/-- The greatest year whose days can be counted; the least is one farther from zero. -/
def maxYear : Int := 262142

/-- Whether a day can be counted. -/
def Day.isCounted (d : Day) : Bool := -maxYear - 1 ≤ d.year && d.year ≤ maxYear

/-- How many days before the beginning of a month its year began, counted from March. -/
def daysBefore (month : Nat) : Nat := (153 * ((month + 9) % 12) + 2) / 5

/-- The year that began in the March before a day. -/
def Day.marchYear (d : Day) : Int := if d.month ≤ 2 then d.year - 1 else d.year

/-- The number of a day, counted from the beginning of 1970. -/
def Day.number (d : Day) : Int :=
  let y := d.marchYear
  let cycle := y.fdiv 400
  let inCycle := (y - cycle * 400).toNat
  let offset := inCycle * 365 + inCycle / 4 - inCycle / 100 + daysBefore d.month + (d.day - 1)
  cycle * 146097 + (offset : Int) - 719468

/-- The day with a number. -/
def Day.ofNumber (n : Int) : Day :=
  let shifted := n + 719468
  let cycle := shifted.fdiv 146097
  let offset := (shifted - cycle * 146097).toNat
  let inCycle := (offset - offset / 1460 + offset / 36524 - offset / 146096) / 365
  let inYear := offset - (365 * inCycle + inCycle / 4 - inCycle / 100)
  let monthIndex := (5 * inYear + 2) / 153
  let day := inYear - (153 * monthIndex + 2) / 5 + 1
  let month := if monthIndex < 10 then monthIndex + 3 else monthIndex - 9
  ⟨cycle * 400 + inCycle + (if month ≤ 2 then 1 else 0), month, day⟩

end Draftsman
