/-
Points in time that are read back.

A point in time is written part by part, and every part is read back: the numbers have as
many digits as are read, or another character behind them.  The day is told by its number,
and the time of the day by its hours, minutes and seconds.  An inserted second is the one
exception; it is written as the sixtieth of its minute and read as the one before, to which
it was counted, and that is why it has to stand at the end of a minute (`Valid`).

Whatever text is read, what is read is such a point in time: a fraction has nine digits at
most, and places differ from Greenwich by whole minutes.
-/
import Draftsman.Proofs.Calendar.Day
import Draftsman.Proofs.Json.Codec
import Draftsman.Proofs.Number.Digits
import Draftsman.Proofs.Text.Blank
import Draftsman.Transcript.Instant

namespace Draftsman.Instant

open Draftsman.Number Draftsman.Text
open Draftsman.Json (bind_eq_ok_iff ok_bind)

/-- Points in time that can be written and read. -/
structure Valid (t : Instant) : Prop where
  /-- The day at Greenwich can be counted. -/
  counted : (Day.ofNumber (t.seconds.fdiv secondsPerDay)).isCounted = true
  /-- A fraction is less than a second, unless a second was inserted at the end of a minute. -/
  fraction : t.nanos < nanosPerSecond ∨ t.nanos < 2 * nanosPerSecond ∧ t.seconds % 60 = 59

/-! ### Digits -/

theorem toNat_of_isDigit {c : Char} (digit : isDigit c = true) : 48 ≤ c.toNat ∧ c.toNat ≤ 57 := by
  have range : '0' ≤ c ∧ c ≤ '9' := by simpa [isDigit] using digit
  exact range

theorem isBlank_of_isDigit {c : Char} (digit : isDigit c = true) : isBlank c = false := by
  have within := toNat_of_isDigit digit
  rw [Bool.eq_false_iff]
  intro blank
  simp only [isBlank, Ranges.covers, blankRanges, List.any_cons, List.any_nil, Bool.or_eq_true,
    Bool.and_eq_true, decide_eq_true_eq, Bool.false_eq_true, or_false] at blank
  omega

theorem isDigit_of_mem_padded {width n : Nat} {c : Char} (mem : c ∈ padded width n) :
    isDigit c = true := by
  rcases List.mem_append.mp mem with zero | digit
  · rw [List.eq_of_mem_replicate zero]
    rfl
  · exact isDigit_of_mem_digits digit

theorem numberOf_padded (width n : Nat) : numberOf (padded width n) = n := by
  have zero : decimalValue '0' = 0 := rfl
  exact (numeral_zeros zero _ _).trans (numeral_digits n)

theorem padded_ne_nil (width n : Nat) : padded width n ≠ [] :=
  List.append_ne_nil_of_right_ne_nil _ (digits_ne_nil n)

theorem length_padded (width : Nat) {n : Nat} (some : 0 < width) (fits : n < 10 ^ width) :
    (padded width n).length = width := by
  have few := (length_digits_le_iff some).mpr fits
  rw [padded, List.length_append, List.length_replicate]
  omega

/-- There are no blanks before digits. -/
theorem trimStart_digits {ds : List Char} (some : ds ≠ []) (all : ∀ c ∈ ds, isDigit c = true)
    (rest : List Char) : trimStart (ds ++ rest) = ds ++ rest := by
  obtain ⟨c, more, rfl⟩ := List.exists_cons_of_ne_nil some
  exact trimStart_cons_of_not (isBlank_of_isDigit (all c List.mem_cons_self)) _

/-- Digits are read if there are as many as are wanted, or no digit behind them. -/
theorem readDigits_append (limit : Option Nat) {ds : List Char} (rest : List Char) (some : ds ≠ [])
    (all : ∀ c ∈ ds, isDigit c = true)
    (ends : limit = .some ds.length ∨
      (∀ n ∈ limit, ds.length ≤ n) ∧ ∀ c ∈ rest.head?, isDigit c = false) :
    readDigits limit (ds ++ rest) = .ok (ds, rest) := by
  have finish : ∀ fault : Fault, (if ds.isEmpty then Except.error fault
      else .ok (ds, (ds ++ rest).drop ds.length)) = .ok (ds, rest) := by
    intro fault
    rw [if_neg (by simpa using some), List.drop_left]
  unfold readDigits
  rcases ends with rfl | ⟨room, stops⟩
  · have taken : ((ds ++ rest).takeWhile isDigit).take ds.length = ds := by
      rw [List.takeWhile_append_of_pos all, List.take_left]
    simp only [taken]
    exact finish _
  · have whole : (ds ++ rest).takeWhile isDigit = ds := by
      rw [List.takeWhile_append_of_pos all]
      cases rest with
      | nil => exact List.append_nil ds
      | cons c rest =>
        rw [List.takeWhile_cons_of_neg (by simpa using stops c rfl), List.append_nil]
    cases limit with
    | none =>
      simp only [whole]
      exact finish _
    | some n =>
      simp only [whole, List.take_of_length_le (room n rfl)]
      exact finish _

/-! ### Parts -/

theorem readPart_padded {low high n : Nat} (above : low ≤ n) (below : n ≤ high) (small : n < 100)
    (rest : List Char) : readPart low high (padded 2 n ++ rest) = .ok (n, rest) := by
  have all : ∀ c ∈ padded 2 n, isDigit c = true := fun c => isDigit_of_mem_padded
  have length := length_padded 2 (by decide) small
  have read := readDigits_append (some 2) rest (padded_ne_nil 2 n) all
    (.inl (congrArg some length.symm))
  rw [readPart, trimStart_digits (padded_ne_nil 2 n) all, read, ok_bind]
  simp only [numberOf_padded]
  rw [if_pos ⟨above, below⟩]

theorem readMark_cons (mark : Char) (seen : isBlank mark = false) (rest : List Char) :
    readMark mark (mark :: rest) = .ok rest := by
  rw [readMark, trimStart_cons_of_not seen]
  exact if_pos rfl

/-- A year is read back if its day can be counted. -/
theorem readYear_yearText {year : Int} (low : -maxYear - 1 ≤ year) (high : year ≤ maxYear)
    (rest : List Char) : readYear (yearText year ++ '-' :: rest) = .ok (year, '-' :: rest) := by
  have all : ∀ c ∈ padded 4 year.natAbs, isDigit c = true := fun c => isDigit_of_mem_padded
  have read := readDigits_append none ('-' :: rest) (padded_ne_nil 4 _) all
    (.inr ⟨nofun, fun c mem => by cases mem; rfl⟩)
  unfold maxYear at low high
  unfold yearText
  split
  · rename_i four
    have same : year.natAbs = year.toNat := by omega
    have length := length_padded 4 (by decide) (show year.natAbs < 10 ^ 4 by omega)
    have read := readDigits_append (some 4) ('-' :: rest) (padded_ne_nil 4 _) all
      (.inl (congrArg some length.symm))
    have number : numberOf (padded 4 year.natAbs) = year.natAbs := numberOf_padded _ _
    rw [← same, readYear, trimStart_digits (padded_ne_nil 4 _) all]
    obtain ⟨c, more, begins⟩ := List.exists_cons_of_ne_nil (padded_ne_nil 4 year.natAbs)
    have digit := all c (begins ▸ List.mem_cons_self)
    rw [begins] at read number ⊢
    rw [List.cons_append] at read ⊢
    split
    · rename_i eq
      cases eq
      cases digit
    · rename_i eq
      cases eq
      cases digit
    · rw [read, ok_bind]
      simp only [number]
      rw [Int.natAbs_of_nonneg four.1]
  · split
    · rename_i negative
      have value : -(year.natAbs : Int) = year := by omega
      rw [List.cons_append, readYear, trimStart_cons_of_not rfl]
      simp only [read, ok_bind, numberOf_padded, value]
      rw [checkYear, if_pos (by omega)]
      rfl
    · rename_i positive
      have value : (year.natAbs : Int) = year := by omega
      rw [List.cons_append, readYear, trimStart_cons_of_not rfl]
      simp only [read, ok_bind, numberOf_padded, value]
      rw [checkYear, if_pos (by omega)]
      rfl

/-- A fraction is written with as many groups of three digits as it needs. -/
theorem fractionText_eq {nanos : Nat} (some : nanos ≠ 0) :
    ∃ width, 0 < width ∧ width ≤ 9 ∧
      fractionText nanos = '.' :: padded width (nanos / 10 ^ (9 - width)) ∧
      nanos / 10 ^ (9 - width) * 10 ^ (9 - width) = nanos := by
  unfold fractionText
  rw [if_neg some]
  split
  · exact ⟨3, by decide, by decide, rfl, by omega⟩
  · split
    · exact ⟨6, by decide, by decide, rfl, by omega⟩
    · exact ⟨9, by decide, by decide, by simp, by simp⟩

theorem readFraction_fractionText {nanos : Nat} (small : nanos < nanosPerSecond) :
    readFraction (fractionText nanos ++ ['Z']) = .ok (nanos, ['Z']) := by
  by_cases zero : nanos = 0
  · subst zero
    rfl
  · obtain ⟨width, some, few, text, value⟩ := fractionText_eq zero
    have fits : nanos / 10 ^ (9 - width) < 10 ^ width := by
      rw [Nat.div_lt_iff_lt_mul (Nat.pow_pos (by decide)), ← Nat.pow_add, Nat.add_sub_cancel' few]
      exact small
    have length := length_padded width some fits
    have read := readDigits_append (.some 9) ['Z'] (padded_ne_nil width _)
      (fun c => isDigit_of_mem_padded)
      (.inr ⟨fun n mem => by cases mem; rw [length]; exact few, fun c mem => by cases mem; rfl⟩)
    rw [text, List.cons_append, readFraction, read, ok_bind]
    simp only [numberOf_padded, length]
    change Except.ok (_ * 10 ^ (9 - width), _) = _
    rw [value]
    rfl

/-- A day is read back if it can be counted. -/
theorem readDay_text {d : Day} (counted : d.isCounted = true)
    (bounds : 1 ≤ d.month ∧ d.month ≤ 12 ∧ 1 ≤ d.day ∧ d.day ≤ 31) (rest : List Char) :
    readDay (yearText d.year ++ '-' :: (padded 2 d.month ++ '-' :: (padded 2 d.day ++ rest)))
      = .ok (d, rest) := by
  obtain ⟨low, high, first, last⟩ := bounds
  simp only [Day.isCounted, Bool.and_eq_true, decide_eq_true_eq] at counted
  rw [readDay, readYear_yearText counted.1 counted.2]
  simp only [ok_bind, readMark_cons '-' rfl, readPart_padded low high (by omega),
    readPart_padded first last (by omega)]

/-! ### Points in time -/

theorem readOffset_greenwich : readOffset (trimStart ['Z']) = .ok (0, []) := by decide +kernel

/-- The parts of a point in time are read one after the other. -/
theorem read_parts {d : Day} (counted : d.isCounted = true) (there : d.exists = true)
    (bounds : 1 ≤ d.month ∧ d.month ≤ 12 ∧ 1 ≤ d.day ∧ d.day ≤ 31) {hour minute second nanos : Nat}
    (hours : hour ≤ 23) (minutes : minute ≤ 59) (seconds : second ≤ 60)
    (small : nanos < nanosPerSecond) :
    read (yearText d.year ++ '-' :: padded 2 d.month ++ '-' :: padded 2 d.day ++
        'T' :: padded 2 hour ++ ':' :: padded 2 minute ++ ':' :: padded 2 second ++
        fractionText nanos ++ ['Z'])
      = (atGreenwich (d.number * secondsPerDay + secondOfDay hour minute second) 0).map
          fun time => ⟨time, nanos + if second = 60 then nanosPerSecond else 0⟩ := by
  have separated : ∀ rest, readSeparator ('T' :: rest) = .ok rest := fun _ => rfl
  have near : ¬ secondsPerDay ≤ ((0 : Int).natAbs : Int) := by decide
  simp only [List.append_assoc, List.cons_append]
  rw [read, readDay_text counted bounds]
  simp only [ok_bind, separated, readPart_padded (Nat.zero_le _) hours (by omega),
    readMark_cons ':' rfl, readPart_padded (Nat.zero_le _) minutes (by omega),
    readPart_padded (Nat.zero_le _) seconds (by omega), readFraction_fractionText small,
    readOffset_greenwich, counted, there]
  simp only [near]
  cases atGreenwich (d.number * secondsPerDay + secondOfDay hour minute second) 0 <;> rfl

/-- The second of a time of the day, which an inserted second continues. -/
theorem secondOfDay_eq {inDay inserted : Nat}
    (final : inserted = 0 ∨ inserted = 1 ∧ inDay % 60 = 59) :
    secondOfDay (inDay / 3600) (inDay / 60 % 60) (inDay % 60 + inserted) = inDay := by
  unfold secondOfDay
  omega

/-- **A valid point in time is read back.** -/
theorem parse_toText {t : Instant} (valid : t.Valid) : parse t.toText = .ok t := by
  obtain ⟨seconds, nanos⟩ := t
  obtain ⟨counted, fraction⟩ := valid
  dsimp only at counted fraction
  have split : seconds.fdiv secondsPerDay * secondsPerDay + seconds.fmod secondsPerDay
      = seconds := Int.fdiv_mul_add_fmod _ _
  have low : 0 ≤ seconds.fmod secondsPerDay := Int.fmod_nonneg_of_pos _ (by decide)
  have high : seconds.fmod secondsPerDay < secondsPerDay := Int.fmod_lt_of_pos _ (by decide)
  obtain ⟨inDay, time⟩ := Int.eq_ofNat_of_zero_le low
  have day : secondsPerDay = 86400 := rfl
  have second : nanosPerSecond = 1000000000 := rfl
  rw [time] at split high
  have minute : seconds % 60 = inDay % 60 := by
    rw [day] at split
    omega
  -- A second was inserted, or it was not.
  have inserted : nanos / nanosPerSecond = 0 ∨ nanos / nanosPerSecond = 1 ∧ inDay % 60 = 59 := by
    rw [second] at fraction ⊢
    omega
  have whole := secondOfDay_eq inserted
  have nanosBack : nanos % nanosPerSecond
      + (if inDay % 60 + nanos / nanosPerSecond = 60 then nanosPerSecond else 0) = nanos := by
    rw [second] at inserted ⊢
    split <;> omega
  have back : atGreenwich (seconds.fdiv secondsPerDay * secondsPerDay + inDay) 0 = .ok seconds := by
    have same : seconds.fdiv secondsPerDay * secondsPerDay + inDay - 0 = seconds := by omega
    rw [atGreenwich, same, if_pos counted]
  have hours : inDay / 3600 ≤ 23 := by omega
  have minutes : inDay / 60 % 60 ≤ 59 := by omega
  have last : inDay % 60 + nanos / nanosPerSecond ≤ 60 := by omega
  have small : nanos % nanosPerSecond < nanosPerSecond := Nat.mod_lt _ (by decide)
  have read := read_parts counted (Day.exists_ofNumber _) (Day.bounds_ofNumber _) hours minutes
    last small
  rw [whole, Day.number_ofNumber, back, nanosBack] at read
  rw [parse, toText, String.toList_ofList]
  simp only [time, Int.toNat_natCast]
  rw [read]
  rfl

/-! ### Whatever is read -/

theorem decimalValue_lt {c : Char} (digit : isDigit c = true) : decimalValue c < 10 := by
  have within := toNat_of_isDigit digit
  have zero : '0'.toNat = 48 := rfl
  rw [decimalValue, zero]
  omega

theorem numberOf_lt {ds : List Char} (all : ∀ c ∈ ds, isDigit c = true) :
    numberOf ds < 10 ^ ds.length := by
  have small := numeral_lt 0 fun c mem => decimalValue_lt (all c mem)
  rwa [Nat.zero_add, Nat.one_mul] at small

theorem readDigits_ok {limit : Option Nat} {text ds rest : List Char}
    (read : readDigits limit text = .ok (ds, rest)) :
    (∀ c ∈ ds, isDigit c = true) ∧ ∀ n ∈ limit, ds.length ≤ n := by
  have all : ∀ c ∈ text.takeWhile isDigit, isDigit c = true := fun c => List.mem_takeWhile_imp
  unfold readDigits at read
  cases limit with
  | none =>
    dsimp only at read
    split at read <;> cases read
    exact ⟨all, nofun⟩
  | some n =>
    dsimp only at read
    split at read <;> cases read
    refine ⟨fun c mem => all c (List.mem_of_mem_take mem), fun m mem => ?_⟩
    cases mem
    exact List.length_take_le _ _

/-- A fraction that is read is less than a second. -/
theorem readFraction_lt {text rest : List Char} {nanos : Nat}
    (read : readFraction text = .ok (nanos, rest)) : nanos < nanosPerSecond := by
  unfold readFraction at read
  split at read
  · obtain ⟨⟨ds, left⟩, digits, read⟩ := (bind_eq_ok_iff _ _ _).mp read
    cases read
    obtain ⟨all, few⟩ := readDigits_ok digits
    calc numberOf ds * 10 ^ (9 - ds.length)
        < 10 ^ ds.length * 10 ^ (9 - ds.length) :=
          Nat.mul_lt_mul_of_pos_right (numberOf_lt all) (Nat.pow_pos (by decide))
      _ = 10 ^ 9 := by rw [← Nat.pow_add, Nat.add_sub_cancel' (few 9 rfl)]
  · cases read
    decide

theorem readHours_minutes {text rest : List Char} {seconds : Nat}
    (read : readHours text = .ok (seconds, rest)) : seconds % 60 = 0 := by
  obtain ⟨⟨hours, left⟩, -, read⟩ := (bind_eq_ok_iff _ _ _).mp read
  obtain ⟨⟨minutes, left'⟩, -, read⟩ := (bind_eq_ok_iff _ _ _).mp read
  cases read
  omega

/-- An offset that is read is one of whole minutes. -/
theorem readOffset_minutes {text rest : List Char} {offset : Int}
    (read : readOffset text = .ok (offset, rest)) : offset % 60 = 0 := by
  unfold readOffset at read
  split at read
  · cases read
    rfl
  · split at read
    · cases read
    · cases read
      rfl
    · cases read
      rfl
    all_goals
      first
      | cases read
      | obtain ⟨⟨seconds, left⟩, hours, read⟩ := (bind_eq_ok_iff _ _ _).mp read
        have whole := readHours_minutes hours
        cases read
        omega

theorem readPart_le {low high n : Nat} {text rest : List Char}
    (read : readPart low high text = .ok (n, rest)) : n ≤ high := by
  obtain ⟨⟨ds, left⟩, -, read⟩ := (bind_eq_ok_iff _ _ _).mp read
  dsimp only at read
  split at read
  · rename_i within
    cases read
    exact within.2
  · cases read

/-- **Whatever text is read, what is read is valid.** -/
theorem valid_of_parse {text : String} {t : Instant} (parsed : parse text = .ok t) : t.Valid := by
  have found : read text.toList = .ok t := by
    unfold parse at parsed
    cases found : read text.toList with
    | error fault =>
      rw [found] at parsed
      cases parsed
    | ok t' =>
      rw [found] at parsed
      cases parsed
      rfl
  obtain ⟨⟨day, left⟩, -, found⟩ := (bind_eq_ok_iff _ _ _).mp found
  obtain ⟨left, -, found⟩ := (bind_eq_ok_iff _ _ _).mp found
  obtain ⟨⟨hour, left⟩, -, found⟩ := (bind_eq_ok_iff _ _ _).mp found
  obtain ⟨left, -, found⟩ := (bind_eq_ok_iff _ _ _).mp found
  obtain ⟨⟨minute, left⟩, -, found⟩ := (bind_eq_ok_iff _ _ _).mp found
  obtain ⟨left, -, found⟩ := (bind_eq_ok_iff _ _ _).mp found
  obtain ⟨⟨second, left⟩, seconds, found⟩ := (bind_eq_ok_iff _ _ _).mp found
  obtain ⟨⟨fraction, left⟩, small, found⟩ := (bind_eq_ok_iff _ _ _).mp found
  obtain ⟨⟨offset, left⟩, minutes, found⟩ := (bind_eq_ok_iff _ _ _).mp found
  dsimp only at found
  split at found
  · cases found
  · split at found
    · cases found
    · obtain ⟨time, greenwich, found⟩ := (bind_eq_ok_iff _ _ _).mp found
      cases found
      have small := readFraction_lt small
      have minutes := readOffset_minutes minutes
      have seconds := readPart_le seconds
      have day' : secondsPerDay = 86400 := rfl
      have second' : nanosPerSecond = 1000000000 := rfl
      rw [atGreenwich] at greenwich
      split at greenwich
      · rename_i counted
        cases greenwich
        refine ⟨counted, ?_⟩
        dsimp only
        rw [second'] at small
        rw [second', day']
        unfold secondOfDay
        split <;> omega
      · cases greenwich

/-- The points in time that are read back are the valid ones. -/
theorem parse_toText_iff (t : Instant) : parse t.toText = .ok t ↔ t.Valid :=
  ⟨valid_of_parse, parse_toText⟩

end Draftsman.Instant
