/-
Patterns, and searching a text for them.

A pattern fits the beginning of a text in a number of ways, which are listed in the order in
which they are preferred: of two patterns the first one is preferred, and what may be repeated
is repeated as often as it goes.  A way that is preferred is given up for the next one only
when what follows does not fit behind it.  To search a text is to go over it from left to
right and to take, wherever the last match does not reach, the way that is preferred, if there
is one; so of all matches the leftmost one is found first, and no two of them overlap.

Where a class of characters is repeated and none of them can begin what follows, there is
nothing to be given up: the longest run is the only one behind which the rest can fit.
-/
import Mathlib.Data.List.Basic
import Draftsman.Proofs.Text.Blank

namespace Draftsman.Text

/-- What a text is searched for. -/
inductive Pattern where
  /-- Nothing. -/
  | empty
  /-- Nothing, at the beginning of a line. -/
  | lineStart
  /-- A character of a class. -/
  | one (p : Char → Bool)
  /-- One pattern and then another. -/
  | seq (first next : Pattern)
  /-- One of two patterns, preferably the first. -/
  | either (first other : Pattern)
  /-- A pattern any number of times, preferably often. -/
  | many (inner : Pattern)
  /-- A pattern whose text is kept under a number. -/
  | group (number : Nat) (inner : Pattern)

/-- A way in which a pattern fits the beginning of a text. -/
structure Fit where
  /-- What is matched. -/
  text : List Char
  /-- The texts that are kept. -/
  groups : List (Nat × List Char)
  /-- What stands behind the match. -/
  rest : List Char
  deriving DecidableEq, Repr

/-- A way behind another. -/
def Fit.behind (before w : Fit) : Fit := ⟨before.text ++ w.text, before.groups ++ w.groups, w.rest⟩

/-- Nothing is matched. -/
def Fit.none (text : List Char) : Fit := ⟨[], [], text⟩

/-- A way whose text is kept under a number. -/
def Fit.kept (number : Nat) (w : Fit) : Fit := { w with groups := (number, w.text) :: w.groups }

/-- Whether a line begins behind a text; `atStart` says whether one begins before it. -/
def startsAfter (atStart : Bool) (text : List Char) : Bool :=
  match text.getLast? with
  | some c => c == '\n'
  | .none => atStart

/-- One way and then, behind it, others. -/
def Fit.andThen (atStart : Bool) (ways : Bool → List Char → List Fit) (w : Fit) : List Fit :=
  (ways (startsAfter atStart w.text) w.rest).map w.behind

/-- Ways repeated up to a number of times, as long as they match something. -/
def repeated (ways : Bool → List Char → List Fit) : Nat → Bool → List Char → List Fit
  | 0, _, text => [.none text]
  | n + 1, atStart, text =>
    ((ways atStart text).filter fun w => !w.text.isEmpty).flatMap
      (Fit.andThen atStart (repeated ways n)) ++ [.none text]

/--
The ways in which a pattern fits the beginning of a text, in the order in which they are
preferred; `atStart` says whether a line begins there.
-/
def Pattern.ways : Pattern → (atStart : Bool) → List Char → List Fit
  | .empty, _, text => [.none text]
  | .lineStart, atStart, text => if atStart then [.none text] else []
  | .one _, _, [] => []
  | .one p, _, c :: rest => if p c then [⟨[c], [], rest⟩] else []
  | .seq first next, atStart, text =>
    (first.ways atStart text).flatMap (Fit.andThen atStart next.ways)
  | .either first other, atStart, text => first.ways atStart text ++ other.ways atStart text
  | .many inner, atStart, text => repeated inner.ways text.length atStart text
  | .group number inner, atStart, text =>
    (inner.ways atStart text).map (Fit.kept number)

/-! ### Searching -/

/-- A place where a pattern was found. -/
structure Match where
  /-- Where the match begins, in bytes of UTF-8. -/
  start : Nat
  text : List Char
  groups : List (Nat × List Char)
  deriving DecidableEq, Repr

/-- The text that a match keeps under a number. -/
def Match.group (m : Match) (number : Nat) : List Char := (m.groups.lookup number).getD []

/--
The preferred way, if there is one.  Where a match has just ended, it has to match something.
-/
def Pattern.fit? (p : Pattern) (ended atStart : Bool) (text : List Char) : Option Fit :=
  (p.ways atStart text).head?.filter fun w => !(ended && w.text.isEmpty)

/--
The matches in a text that begins at a place, of which the first `covered` characters belong
to a match already; `ended` says whether the last character before the text does.
-/
def Pattern.matchesFrom (p : Pattern) : (covered : Nat) → (ended atStart : Bool) →
    (place : Nat) → List Char → List Match
  | 0, ended, atStart, place, [] =>
    ((p.fit? ended atStart []).map fun w => ⟨place, w.text, w.groups⟩).toList
  | _ + 1, _, _, _, [] => []
  | covered + 1, _, _, place, c :: rest =>
    p.matchesFrom covered true (c == '\n') (place + c.utf8Size) rest
  | 0, ended, atStart, place, c :: rest =>
    match p.fit? ended atStart (c :: rest) with
    | some w =>
      ⟨place, w.text, w.groups⟩ ::
        p.matchesFrom (w.text.length - 1) (!w.text.isEmpty) (c == '\n') (place + c.utf8Size) rest
    | .none => p.matchesFrom 0 false (c == '\n') (place + c.utf8Size) rest

/-- The matches in a text, from left to right. -/
def Pattern.matches (p : Pattern) (text : List Char) : List Match :=
  p.matchesFrom 0 false true 0 text

/-! ### One thing behind another -/

variable {p : Char → Bool}

theorem Fit.andThen_none (ways : Bool → List Char → List Fit) (atStart : Bool) (text : List Char) :
    Fit.andThen atStart ways (.none text) = ways atStart text := List.map_id _

theorem ways_one_seq {c : Char} (inside : p c = true) (q : Pattern) (atStart : Bool)
    (rest : List Char) :
    ((Pattern.one p).seq q).ways atStart (c :: rest)
      = Fit.andThen atStart q.ways ⟨[c], [], rest⟩ := by
  rw [Pattern.ways, Pattern.ways, if_pos inside, List.flatMap_singleton]

/-! ### Runs of characters -/

/-- The beginnings of a text that are of one class, the longest one first. -/
def runs (p : Char → Bool) : List Char → List Fit
  | [] => [.none []]
  | c :: rest =>
    (if p c then (runs p rest).map (Fit.behind ⟨[c], [], rest⟩) else []) ++ [.none (c :: rest)]

theorem repeated_one (p : Char → Bool) (atStart : Bool) {n : Nat} {text : List Char}
    (enough : text.length ≤ n) : repeated (Pattern.one p).ways n atStart text = runs p text := by
  induction n generalizing atStart text with
  | zero =>
    obtain rfl := List.eq_nil_of_length_eq_zero (Nat.le_zero.mp enough)
    rfl
  | succ n ih =>
    cases text with
    | nil => rfl
    | cons c rest =>
      rw [repeated, runs, Pattern.ways]
      congr 1
      split
      · have more := ih (startsAfter atStart [c]) (Nat.le_of_succ_le_succ enough)
        simp [Fit.andThen, more]
      · rfl

/-- The repetition of a class. -/
theorem ways_many (p : Char → Bool) (atStart : Bool) (text : List Char) :
    (Pattern.many (.one p)).ways atStart text = runs p text :=
  repeated_one p atStart (Nat.le_refl _)

/-- The whole run. -/
def wholeRun (p : Char → Bool) (text : List Char) : Fit := ⟨text.takeWhile p, [], text.dropWhile p⟩

theorem wholeRun_cons {c : Char} (inside : p c = true) (rest : List Char) :
    wholeRun p (c :: rest) = Fit.behind ⟨[c], [], rest⟩ (wholeRun p rest) := by
  simp [wholeRun, Fit.behind, inside]

/-- The longest run is preferred. -/
theorem head?_runs (p : Char → Bool) (text : List Char) :
    (runs p text).head? = some (wholeRun p text) := by
  induction text with
  | nil => rfl
  | cons c rest ih =>
    rw [runs]
    by_cases inside : p c = true
    · simp [inside, ih, wholeRun_cons inside]
    · simp [inside, wholeRun, Fit.none]

/-- **A run is not shortened for what cannot begin with one of its characters.** -/
theorem flatMap_runs {α : Type} {f : Fit → List α}
    (stuck : ∀ w c rest, w.rest = c :: rest → p c = true → f w = []) (text : List Char) :
    (runs p text).flatMap f = f (wholeRun p text) := by
  -- What goes on behind a run is general: with one character taken, it goes on behind one more.
  induction text generalizing f with
  | nil => simp [runs, wholeRun, Fit.none]
  | cons c rest ih =>
    rw [runs, List.flatMap_append, List.flatMap_singleton]
    by_cases inside : p c = true
    · rw [if_pos inside, List.flatMap_map, stuck (.none (c :: rest)) c rest rfl inside,
        List.append_nil, wholeRun_cons inside]
      exact ih fun w d more behind => stuck _ d more behind
    · simp [inside, wholeRun, Fit.none]

/-- No way begins with a character of a class. -/
def Pattern.Avoids (q : Pattern) (p : Char → Bool) : Prop :=
  ∀ atStart c text, p c = true → q.ways atStart (c :: text) = []

theorem Pattern.Avoids.one {q : Char → Bool} (other : ∀ c, p c = true → q c = false) :
    (Pattern.one q).Avoids p := by
  intro atStart c text inside
  simp [Pattern.ways, other c inside]

theorem Pattern.Avoids.seq {first : Pattern} (avoids : first.Avoids p) (next : Pattern) :
    (first.seq next).Avoids p := by
  intro atStart c text inside
  rw [Pattern.ways, avoids atStart c text inside, List.flatMap_nil]

theorem Pattern.Avoids.group {inner : Pattern} (avoids : inner.Avoids p) (number : Nat) :
    (Pattern.group number inner).Avoids p := by
  intro atStart c text inside
  rw [Pattern.ways, avoids atStart c text inside, List.map_nil]

theorem Pattern.Avoids.andThen {q : Pattern} (avoids : q.Avoids p) (atStart : Bool) {w : Fit}
    {c : Char} {rest : List Char} (behind : w.rest = c :: rest) (inside : p c = true) :
    Fit.andThen atStart q.ways w = [] := by
  rw [Fit.andThen, behind, avoids _ c rest inside, List.map_nil]

/-- A run, and then what cannot begin with one of its characters. -/
theorem ways_many_seq {q : Pattern} (avoids : q.Avoids p) (atStart : Bool) (text : List Char) :
    ((Pattern.many (.one p)).seq q).ways atStart text
      = Fit.andThen atStart q.ways (wholeRun p text) := by
  rw [Pattern.ways, ways_many]
  exact flatMap_runs (fun w c rest behind inside => avoids.andThen atStart behind inside) text

/-- A run that is kept, and then what cannot begin with one of its characters. -/
theorem ways_group_many_seq {q : Pattern} (avoids : q.Avoids p) (number : Nat) (atStart : Bool)
    (text : List Char) :
    ((Pattern.group number (.many (.one p))).seq q).ways atStart text
      = Fit.andThen atStart q.ways ((wholeRun p text).kept number) := by
  rw [Pattern.ways, Pattern.ways, ways_many, List.flatMap_map]
  exact flatMap_runs (f := fun w => Fit.andThen atStart q.ways (w.kept number))
    (fun w c rest behind inside => avoids.andThen atStart behind inside) text

end Draftsman.Text
