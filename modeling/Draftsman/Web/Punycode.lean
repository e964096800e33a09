/-
Names of any characters, written in letters, digits and hyphens.

The characters below 0x80 are written first, with a hyphen behind them.  The others
are inserted one by one, in the order of their code points, and for each a number
says how many possible insertions are passed over.  A number is written in digits
whose weights grow with its size, the lowest digit first; a digit below its threshold
ends it.  The thresholds follow the size of the numbers before.
-/
namespace Draftsman.Web.Punycode

/-! ### Digits and thresholds -/

/-- The character of a digit: the letters, then the decimal digits. -/
def digitChar (d : Nat) : Char :=
  if d < 26 then Char.ofNat ('a'.toNat + d) else Char.ofNat ('0'.toNat + d - 26)

/-- The value of a digit. -/
def digit? (c : Char) : Option Nat :=
  if c.isLower then some (c.toNat - 'a'.toNat)
  else if c.isUpper then some (c.toNat - 'A'.toNat)
  else if c.isDigit then some (c.toNat - '0'.toNat + 26)
  else none

/-- How many digits there are. -/
def base : Nat := 36

/-- The threshold of the digit at a place, which is a multiple of the base. -/
def threshold (bias place : Nat) : Nat :=
  if place ≤ bias then 1 else min (place - bias) 26

theorem threshold_pos (bias place : Nat) : 0 < threshold bias place := by
  unfold threshold
  split <;> omega

/-- A number brought down to 455 at most, and what the bias gains by it. -/
def brought (n gain : Nat) : Nat × Nat :=
  if 455 < n then brought (n / 35) (gain + base) else (n, gain)
termination_by n
decreasing_by exact Nat.div_lt_self (by omega) (by omega)

/-- The bias after a number; `count` characters are there after its insertion. -/
def nextBias (first : Bool) (count number : Nat) : Nat :=
  let halved := if first then number / 700 else number / 2
  let (rest, gain) := brought (halved + halved / count) 0
  gain + base * rest / (rest + 38)

/-- The bias of the first number. -/
def firstBias : Nat := 72

/-! ### Writing -/

/-- The digits of a number from a place on. -/
def writeNumber (bias place number : Nat) : List Char :=
  let t := threshold bias place
  if number < t then [digitChar number]
  else
    digitChar (t + (number - t) % (base - t)) ::
      writeNumber bias (place + base) ((number - t) / (base - t))
termination_by number
decreasing_by
  have := threshold_pos bias place
  exact Nat.lt_of_le_of_lt (Nat.div_le_self _ _) (by omega)

/-- The digits of numbers; `count` characters are there before the first is inserted. -/
def writeNumbers (first : Bool) (bias count : Nat) : List Nat → List Char
  | [] => []
  | number :: rest =>
    writeNumber bias base number ++
      writeNumbers false (nextBias first (count + 1) number) (count + 1) rest

/-- Insertions that have been counted. -/
structure Count where
  /-- The numbers that are complete, last first. -/
  numbers : List Nat
  /-- How many insertions have been passed over since. -/
  passed : Nat
  /-- How many characters are there. -/
  present : Nat

/-- The count after a character, while those with code point `n` are inserted. -/
def Count.see (n : Nat) (k : Count) (c : Char) : Count :=
  if c.toNat < n then { k with passed := k.passed + 1 }
  else if c.toNat = n then ⟨k.passed :: k.numbers, 0, k.present + 1⟩
  else k

/-- The count after all characters of a code point; `last` is the one inserted before. -/
def Count.insertAll (text : List Char) (state : Nat × Count) (n : Nat) : Nat × Count :=
  let (last, k) := state
  let k := { k with passed := k.passed + (n - last) * (k.present + 1) }
  let k := text.foldl (Count.see n) k
  (n + 1, { k with passed := k.passed + 1 })

/-- The characters of a name that are written as they are. -/
def plain (text : List Char) : List Char := text.filter fun c => c.toNat < 0x80

/-- The code points of the other characters, in their order and each once. -/
def inserted (text : List Char) : List Nat :=
  (((text.filter fun c => 0x80 ≤ c.toNat).map Char.toNat).mergeSort).eraseDups

/-- The numbers of the insertions that make a name of its plain characters. -/
def numbers (text : List Char) : List Nat :=
  let start : Count := ⟨[], 0, (plain text).length⟩
  ((inserted text).foldl (Count.insertAll text) (0x80, start)).2.numbers.reverse

/-- A name in letters, digits and hyphens. -/
def encode (text : List Char) : List Char :=
  let basis := plain text
  basis ++ (if basis.isEmpty then [] else ['-']) ++
    writeNumbers true firstBias basis.length (numbers text)

/-! ### Reading -/

/-- Numbers that have been read. -/
structure Reading where
  /-- The numbers that are complete, last first. -/
  numbers : List Nat
  bias : Nat
  /-- How many characters are there. -/
  present : Nat
  /-- The value of the digits of the next number so far. -/
  value : Nat
  /-- The weight of its next digit. -/
  weight : Nat
  /-- The place of its next digit. -/
  place : Nat

/-- What is read before the first digit. -/
def Reading.start (present : Nat) : Reading := ⟨[], firstBias, present, 0, 1, base⟩

/-- The numbers after one more digit. -/
def Reading.add (r : Reading) (d : Nat) : Reading :=
  let value := r.value + d * r.weight
  let t := threshold r.bias r.place
  if d < t then
    let bias := nextBias r.numbers.isEmpty (r.present + 1) value
    ⟨value :: r.numbers, bias, r.present + 1, 0, 1, base⟩
  else { r with value, weight := r.weight * (base - t), place := r.place + base }

/-- The numbers that digits stand for, when so many characters are there. -/
def readNumbers (present : Nat) (text : List Char) : Option (List Nat) := do
  let r ← text.foldlM (fun r c => (digit? c).map r.add) (Reading.start present)
  if r.place = base then some r.numbers.reverse else none

/-- The characters after insertions, from a code point and a position on. -/
def insertNumbers (code position : Nat) (text : List Char) : List Nat → Option (List Char)
  | [] => some text
  | number :: rest =>
    let size := text.length + 1
    let passed := position + number
    let code := code + passed / size
    if code.isValidChar then
      insertNumbers code (passed % size + 1) (text.insertIdx (passed % size) (Char.ofNat code)) rest
    else none

/-- The plain characters of a written name, and the digits behind the last hyphen. -/
def parts (text : List Char) : List Char × List Char :=
  let digits := (text.reverse.takeWhile (· != '-')).reverse
  match text.take (text.length - digits.length - 1) with
  | [] => ([], text)
  | basis => (basis, digits)

/-- The name that is written so, if one is. -/
def decode? (text : List Char) : Option (List Char) := do
  let (basis, digits) := parts text
  insertNumbers 0x80 0 basis (← readNumbers basis.length digits)

end Draftsman.Web.Punycode
