/-
Points in time, and how they are written.

A point in time is a count of seconds and a fraction of one.  It is written as the
date and the time of day at Greenwich, the fraction with as few groups of three
digits as it needs.  What is read may be more relaxed: any offset, blanks between
the parts, numbers without leading zeros, and a fraction of any length.
-/
import Draftsman.Calendar.Day
import Draftsman.Text.Cut
import Draftsman.Number.Decimal

namespace Draftsman

open Draftsman.Text
open Draftsman.Number (digits)

/-- A point in time. -/
structure Instant where
  /-- Seconds since the beginning of 1970. -/
  seconds : Int
  /-- The fraction in billionths; those of an inserted second continue the one before. -/
  nanos : Nat
  deriving DecidableEq, Repr

namespace Instant

/-! ### Writing -/

/-- The seconds of a day. -/
def secondsPerDay : Int := 86400

/-- The fractions of a second. -/
def nanosPerSecond : Nat := 1000000000

/-- A number with at least `width` digits. -/
def padded (width n : Nat) : List Char :=
  let ds := digits n
  List.replicate (width - ds.length) '0' ++ ds

/-- A year: four digits, or a sign and at least four where these would not do. -/
def yearText (year : Int) : List Char :=
  if 0 ≤ year ∧ year ≤ 9999 then padded 4 year.toNat
  else (if year < 0 then '-' else '+') :: padded 4 year.natAbs

/-- A fraction of a second, with its point. -/
def fractionText (nanos : Nat) : List Char :=
  if nanos = 0 then []
  else if nanos % 1000000 = 0 then '.' :: padded 3 (nanos / 1000000)
  else if nanos % 1000 = 0 then '.' :: padded 6 (nanos / 1000)
  else '.' :: padded 9 nanos

/-- A point in time as it is written. -/
def toText (t : Instant) : String :=
  let day := Day.ofNumber (t.seconds.fdiv secondsPerDay)
  let inDay := (t.seconds.fmod secondsPerDay).toNat
  let second := inDay % 60 + t.nanos / nanosPerSecond
  String.ofList <|
    yearText day.year ++ '-' :: padded 2 day.month ++ '-' :: padded 2 day.day ++
      'T' :: padded 2 (inDay / 3600) ++ ':' :: padded 2 (inDay / 60 % 60) ++
      ':' :: padded 2 second ++ fractionText (t.nanos % nanosPerSecond) ++ ['Z']

/-! ### Reading -/

/-- Why a text is no point in time. -/
inductive Fault where
  | outOfRange
  | invalid
  | tooShort
  | tooLong
  | impossible
  deriving DecidableEq, Repr

/-- The message for a fault. -/
def Fault.message : Fault → String
  | .outOfRange => "input is out of range"
  | .invalid => "input contains invalid characters"
  | .tooShort => "premature end of input"
  | .tooLong => "trailing input"
  | .impossible => "no possible date and time matching input"

/-- Whether a character is a decimal digit. -/
def isDigit (c : Char) : Bool := '0' ≤ c && c ≤ '9'

/-- The number that digits stand for. -/
def numberOf (ds : List Char) : Nat := ds.foldl (fun n d => n * 10 + (d.toNat - '0'.toNat)) 0

/-- Reads a number of at least one digit, and of at most `limit` digits if there is a limit. -/
def readDigits (limit : Option Nat) (text : List Char) : Except Fault (List Char × List Char) :=
  let all := text.takeWhile isDigit
  let ds :=
    match limit with
    | some n => all.take n
    | none => all
  if ds.isEmpty then .error (if text.isEmpty then .tooShort else .invalid)
  else .ok (ds, text.drop ds.length)

/-- Reads a number of two digits that lies between two others. -/
def readPart (low high : Nat) (text : List Char) : Except Fault (Nat × List Char) := do
  let (ds, rest) ← readDigits (some 2) (trimStart text)
  let n := numberOf ds
  if low ≤ n ∧ n ≤ high then .ok (n, rest) else .error .outOfRange

/-- A year, which has to fit in 32 bits. -/
def checkYear (year : Int) : Except Fault Int :=
  if -2147483648 ≤ year ∧ year ≤ 2147483647 then .ok year else .error .outOfRange

/-- Reads a year: four digits, or any number of them behind a sign. -/
def readYear (text : List Char) : Except Fault (Int × List Char) :=
  match trimStart text with
  | '-' :: rest => do
    let (ds, rest) ← readDigits none rest
    .ok (← checkYear (-(numberOf ds : Int)), rest)
  | '+' :: rest => do
    let (ds, rest) ← readDigits none rest
    .ok (← checkYear (numberOf ds), rest)
  | text => do
    let (ds, rest) ← readDigits (some 4) text
    .ok (numberOf ds, rest)

/-- Reads one character, after any blanks. -/
def readMark (mark : Char) (text : List Char) : Except Fault (List Char) :=
  match trimStart text with
  | [] => .error .tooShort
  | c :: rest => if c = mark then .ok rest else .error .invalid

/-- Reads a day. -/
def readDay (text : List Char) : Except Fault (Day × List Char) := do
  let (year, text) ← readYear text
  let (month, text) ← readPart 1 12 (← readMark '-' text)
  let (day, text) ← readPart 1 31 (← readMark '-' text)
  .ok (⟨year, month, day⟩, text)

/-- Reads a fraction of a second, if there is one; digits beyond the ninth do not count. -/
def readFraction : List Char → Except Fault (Nat × List Char)
  | '.' :: text => do
    let (ds, rest) ← readDigits (some 9) text
    .ok (numberOf ds * Nat.pow 10 (9 - ds.length), rest.dropWhile isDigit)
  | text => .ok (0, text)

/-- Why a text does not begin with two digits; a text of one byte is too short for them. -/
def pairFault : List Char → Fault
  | [] => .tooShort
  | [c] => if c.utf8Size = 1 then .tooShort else .invalid
  | _ => .invalid

/-- Reads the two digits of an offset. -/
def readPair (limit : Nat) (text : List Char) : Except Fault (Nat × List Char) :=
  match text with
  | a :: b :: rest =>
    if isDigit a && isDigit b then
      if numberOf [a, b] ≤ limit then .ok (numberOf [a, b], rest) else .error .outOfRange
    else .error .invalid
  | _ => .error (pairFault text)

/-- Reads an offset after its sign, in seconds. -/
def readHours (text : List Char) : Except Fault (Nat × List Char) := do
  let (hours, text) ← readPair 99 text
  let (minutes, text) ← readPair 59 (text.dropWhile fun c => c == ':' || isBlank c)
  .ok (hours * 3600 + minutes * 60, text)

/-- Whether a text begins with the three letters that stand for no offset. -/
def beginsUtc (text : List Char) : Bool := (text.take 3).map Char.toUpper == "UTC".toList

/-- Reads the offset from Greenwich, in seconds. -/
def readOffset (text : List Char) : Except Fault (Int × List Char) :=
  if beginsUtc text then .ok (0, text.drop 3)
  else
    match text with
    | [] => .error .tooShort
    | 'Z' :: rest => .ok (0, rest)
    | 'z' :: rest => .ok (0, rest)
    | '+' :: rest => do
      let (seconds, rest) ← readHours rest
      .ok (seconds, rest)
    | '-' :: rest => do
      let (seconds, rest) ← readHours rest
      .ok (-(seconds : Int), rest)
    | '\u2212' :: rest => do
      let (seconds, rest) ← readHours rest
      .ok (-(seconds : Int), rest)
    | _ => .error .invalid

/-- Reads the letter or the blank between the day and the time. -/
def readSeparator : List Char → Except Fault (List Char)
  | [] => .error .tooShort
  | c :: rest => if c = 'T' ∨ c = 't' ∨ c = ' ' then .ok rest else .error .invalid

/-- The second of an hour, a minute and a second, of which the inserted one is the one before. -/
def secondOfDay (hour minute second : Nat) : Nat := hour * 3600 + minute * 60 + min second 59

/-- The time at Greenwich for a time at a place east of it; its day must be one that counts. -/
def atGreenwich (time east : Int) : Except Fault Int :=
  if (Day.ofNumber ((time - east).fdiv secondsPerDay)).isCounted then .ok (time - east)
  else .error .impossible

/-- Reads a point in time. -/
def read (text : List Char) : Except Fault Instant := do
  let (day, text) ← readDay text
  let (hour, text) ← readPart 0 23 (← readSeparator text)
  let (minute, text) ← readPart 0 59 (← readMark ':' text)
  let (second, text) ← readPart 0 60 (← readMark ':' text)
  let (fraction, text) ← readFraction text
  let (offset, text) ← readOffset (trimStart text)
  if !(trimStart text).isEmpty then .error .tooLong
  else if !day.exists || !day.isCounted || secondsPerDay ≤ offset.natAbs then .error .outOfRange
  else
    let seconds ←
      atGreenwich (day.number * secondsPerDay + secondOfDay hour minute second) offset
    .ok ⟨seconds, fraction + if second = 60 then nanosPerSecond else 0⟩

/-- The point in time that a text spells. -/
def parse (text : String) : Except String Instant := (read text.toList).mapError Fault.message

end Instant

end Draftsman
