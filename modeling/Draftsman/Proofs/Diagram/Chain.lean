/-
Chains of edges, and their edges line by line.

A chain of edges is short for as many lines as there are edges in it, of which only the last
one has the label.  Entering those lines one after another leads to the same draft as
entering the chain: each of them mentions nodes that the chain mentions too, in the same
order, and the end that it shares with the line above has been mentioned already
(`Draft.add_chain`).  What is above and below the chain does not matter, but for the numbers
of lines that are below it, which faults speak of.
-/
import Draftsman.Proofs.Diagram.Order

namespace Draftsman.Diagram

open Draftsman.Text

/-! ### Entering a chain -/

/-- The edges that have been drawn do not matter to a mention. -/
theorem mention_withEdges (d : Diagram) (drawn : List Edge) (id : String) :
    ({ d with edges := drawn } : Diagram).mention id = { d.mention id with edges := drawn } := by
  have found : ({ d with edges := drawn } : Diagram).indexOf? id = d.indexOf? id := rfl
  rw [mention, mention, found]
  cases d.indexOf? id <;> rfl

theorem foldl_mention_withEdges (d : Diagram) (drawn : List Edge) (ids : List String) :
    ids.foldl mention { d with edges := drawn }
      = { ids.foldl mention d with edges := drawn } := by
  induction ids generalizing d with
  | nil => rfl
  | cons id ids ih => rw [List.foldl_cons, List.foldl_cons, mention_withEdges, ih]

theorem edges_foldl_mention (d : Diagram) (ids : List String) :
    (ids.foldl mention d).edges = d.edges := by
  induction ids generalizing d with
  | nil => rfl
  | cons id ids ih => rw [List.foldl_cons, ih, mention_eq]

/-- An id that is mentioned has its node. -/
theorem mem_ids_mention (d : Diagram) (id : String) : id ∈ (d.mention id).ids := by
  by_cases there : id ∈ d.ids
  · rwa [mention_eq_self there]
  · simp [mention, indexOf?_eq_none there, ids, Node.plain]

/-- A chain mentions its ids, and draws its edges behind the others. -/
theorem Draft.add_chain (draft : Draft) (ids : List String) (label : Option String) :
    draft.add (.chain ids label) =
      .ok { draft with
        diagram := { ids.foldl mention draft.diagram with
          edges := draft.diagram.edges ++ chainEdges label ids } } := by
  rw [← edges_foldl_mention draft.diagram ids]
  rfl

/-- **A chain is its first edge, and then the chain of the others.** -/
theorem Draft.add_chain_cons (draft : Draft) (a b c : String) (rest : List String)
    (label : Option String) :
    draft.add (.chain (a :: b :: c :: rest) label) =
      draft.add (.chain [a, b] none) >>= fun next => next.add (.chain (b :: c :: rest) label) := by
  let both := (draft.diagram.mention a).mention b
  let drawn := draft.diagram.edges ++ [⟨a, b, none⟩]
  have there : b ∈ ({ both with edges := drawn } : Diagram).ids := mem_ids_mention _ b
  -- The end that both share is there when it is mentioned again.
  have others : (b :: c :: rest).foldl mention { both with edges := drawn }
      = { (c :: rest).foldl mention both with edges := drawn } := by
    rw [List.foldl_cons, mention_eq_self there, foldl_mention_withEdges]
  have edges : draft.diagram.edges ++ chainEdges label (a :: b :: c :: rest)
      = drawn ++ chainEdges label (b :: c :: rest) := List.append_cons ..
  have first : draft.add (.chain [a, b] none)
      = .ok { draft with diagram := { both with edges := drawn } } := draft.add_chain [a, b] none
  rw [add_chain, edges, first]
  show _ = Draft.add ⟨{ both with edges := drawn }, draft.declared⟩ (.chain (b :: c :: rest) label)
  rw [add_chain, others]
  rfl

/-! ### The lines of a chain -/

/-- The lines that draw the edges of a chain, the last one with its label. -/
def hopLines (label : Option String) : List String → List (List Char)
  | a :: b :: c :: rest => chainLine [a, b] none :: hopLines label (b :: c :: rest)
  | ids => [chainLine ids label]

section Hops

variable {ids : List String} {label : Option String}

/-- The lines of the edges lead where the chain leads. -/
theorem Draft.leads_hopLines (valid : ∀ id ∈ ids, isId id.toList = true) (long : 2 ≤ ids.length)
    {draft next : Draft} (added : draft.add (.chain ids (readLabel label)) = .ok next) :
    draft.Leads (hopLines label ids) next := by
  induction ids using hopLines.induct generalizing draft with
  | case1 a b c rest ih =>
    rw [add_chain_cons, Json.bind_eq_ok_iff] at added
    obtain ⟨between, first, others⟩ := added
    have ends : ∀ id ∈ [a, b], isId id.toList = true := fun id mem =>
      valid id (List.mem_append_left (c :: rest) mem)
    have said := ofLine_chainLine ends (Nat.le_refl 2) none
    have behind : ∀ id ∈ b :: c :: rest, isId id.toList = true := fun id mem =>
      valid id (List.mem_cons_of_mem a mem)
    exact (leads_line said first).trans (ih behind (by simp) others)
  | case2 ids short =>
    rw [hopLines.eq_2 label ids short]
    exact leads_line (ofLine_chainLine valid long label) added

theorem hopLines_ne_nil (label : Option String) (ids : List String) : hopLines label ids ≠ [] := by
  unfold hopLines
  split <;> exact List.cons_ne_nil _ _

theorem whole_hopLines (valid : ∀ id ∈ ids, isId id.toList = true)
    (whole : ∀ text ∈ label, '\n' ∉ text.toList) : ∀ line ∈ hopLines label ids, '\n' ∉ line := by
  induction ids using hopLines.induct with
  | case1 a b c rest ih =>
    have ends : ∀ id ∈ [a, b], isId id.toList = true := fun id mem =>
      valid id (List.mem_append_left (c :: rest) mem)
    rw [hopLines, List.forall_mem_cons]
    exact ⟨whole_chainLine ends nofun, ih fun id mem => valid id (List.mem_cons_of_mem a mem)⟩
  | case2 ids short =>
    rw [hopLines.eq_2 label ids short, List.forall_mem_singleton]
    exact whole_chainLine valid whole

end Hops

/-! ### Numbers of lines -/

/-- The fault, wherever in its text the line stands. -/
def Fault.unnumbered : Fault → Fault
  | .line _ why => .line 0 why
  | fault => fault

theorem mapError_bind {ε ε' α β : Type} (x : Except ε α) (f : α → Except ε β) (g : ε → ε') :
    (x >>= f).mapError g = x.mapError g >>= fun a => (f a).mapError g := by
  cases x <;> rfl

/-- Only faults tell where a line stands. -/
theorem Draft.addLine_unnumbered (draft : Draft) (m n : Nat) (line : List Char) :
    (draft.addLine m line).mapError Fault.unnumbered
      = (draft.addLine n line).mapError Fault.unnumbered := by
  rw [addLine, addLine]
  cases Statement.ofLine line <;> rfl

theorem Draft.addLines_unnumbered (ls : List (List Char)) (draft : Draft) (m n : Nat) :
    (draft.addLines m ls).mapError Fault.unnumbered
      = (draft.addLines n ls).mapError Fault.unnumbered := by
  induction ls generalizing draft m n with
  | nil => rfl
  | cons line ls ih =>
    rw [addLines, addLines, mapError_bind, mapError_bind, draft.addLine_unnumbered m n]
    exact bind_congr fun next => ih next (m + 1) (n + 1)

/-- Lines below others may be changed for lines that lead to the same drafts. -/
theorem Draft.addLines_append_unnumbered {ls ls' : List (List Char)}
    (same : ∀ (draft : Draft) (number : Nat), (draft.addLines number ls).mapError Fault.unnumbered
      = (draft.addLines number ls').mapError Fault.unnumbered)
    (above : List (List Char)) (draft : Draft) (number : Nat) :
    (draft.addLines number (above ++ ls)).mapError Fault.unnumbered
      = (draft.addLines number (above ++ ls')).mapError Fault.unnumbered := by
  induction above generalizing draft number with
  | nil => exact same draft number
  | cons line above ih =>
    rw [List.cons_append, List.cons_append, addLines, addLines, mapError_bind, mapError_bind]
    exact bind_congr fun next => ih next (number + 1)

/-! ### Lines in their text -/

/-- Texts behind which a line begins. -/
def LineBegins (before : String) : Prop := before = "" ∨ ['\n'] <:+ before.toList

/-- Texts before which a line ends. -/
def LineEnds (after : String) : Prop :=
  after = "" ∨ ['\n'] <+: after.toList ∨ ['\r', '\n'] <+: after.toList

/-- What stands between the line feeds of a text, read line by line. -/
def readings (text : List Char) : List (Except LineFault Statement) :=
  (text.splitOn '\n').map Statement.ofLine

theorem readings_append (above below : List Char) :
    readings (above ++ '\n' :: below) = readings above ++ readings below := by
  rw [readings, List.splitOn_append_cons_self, List.map_append]
  rfl

theorem readings_of_whole {line : List Char} (whole : '\n' ∉ line) :
    readings line = [Statement.ofLine line] := by
  rw [readings, List.splitOn_eq_singleton whole, List.map_singleton]

theorem readings_intercalate {ls : List (List Char)} (some_lines : ls ≠ [])
    (whole : ∀ line ∈ ls, '\n' ∉ line) :
    readings (['\n'].intercalate ls) = ls.map Statement.ofLine := by
  rw [readings, List.splitOn_intercalate '\n' whole some_lines]

/-- A carriage return at the end of a text says nothing. -/
theorem readings_return (text : List Char) : readings (text ++ ['\r']) = readings text := by
  have line_return : ∀ line : List Char, '\n' ∉ line →
      readings (line ++ ['\r']) = readings line := by
    intro line whole
    have read : Statement.ofLine (line ++ ['\r']) = Statement.ofLine line := by
      rw [← ofLine_trim, trim_append_of_blank line (blank_singleton rfl), ofLine_trim]
    rw [readings_of_whole (List.not_mem_append whole (by decide)), readings_of_whole whole, read]
  induction text using byLines with
  | nil => exact line_return [] List.not_mem_nil
  | last line _ whole => exact line_return line whole
  | ended line rest _ ih =>
    rw [List.append_assoc, List.cons_append, readings_append, ih, readings_append]

/-- What is above a line is read without it. -/
theorem LineBegins.exists_readings {before : String} (begins : LineBegins before) :
    ∃ above : List (List Char), ∀ text,
      readings (before.toList ++ text) = above.map Statement.ofLine ++ readings text := by
  rcases begins with rfl | ⟨above, ends⟩
  · exact ⟨[], fun text => rfl⟩
  · refine ⟨above.splitOn '\n', fun text => ?_⟩
    rw [← ends, List.append_assoc, List.singleton_append, readings_append]
    rfl

/-- What is below a line is read without it. -/
theorem LineEnds.exists_readings {after : String} (ends : LineEnds after) :
    ∃ below : List (List Char), ∀ text,
      readings (text ++ after.toList) = readings text ++ below.map Statement.ofLine := by
  rcases ends with rfl | ⟨below, begins⟩ | ⟨below, begins⟩
  · refine ⟨[], fun text => ?_⟩
    rw [String.toList_empty, List.append_nil, List.map_nil, List.append_nil]
  · refine ⟨below.splitOn '\n', fun text => ?_⟩
    rw [← begins, List.singleton_append, readings_append]
    rfl
  · refine ⟨below.splitOn '\n', fun text => ?_⟩
    rw [← begins, ← readings_return text, List.cons_append, List.singleton_append,
      List.append_cons, readings_append]
    rfl

/-- Only what the lines of a text say counts. -/
theorem Draft.addLines_of_readings {text : List Char} {ls : List (List Char)}
    (read : readings text = ls.map Statement.ofLine) (draft : Draft) (number : Nat) :
    draft.addLines number (lines text) = draft.addLines number ls := by
  have whole : ∀ line ∈ text.splitOn '\n', '\n' ∉ line := fun _ => whole_of_mem_splitOn
  have parts := draft.addLines_joined whole number
  rw [joined, List.intercalate_splitOn, String.toList_ofList] at parts
  rw [parts]
  exact Draft.addLines_congr read draft number

/--
**A chain may be written as its edges, line by line.**

In any text, the line that draws a chain of edges may be replaced by lines that draw one edge
each, the last one with the label of the chain.  The text describes the same diagram, with
its nodes and its edges in the same order; or else it has the same fault, but perhaps for
the number of a line.
-/
theorem ofLines_chain {before after : String} (begins : LineBegins before)
    (ends : LineEnds after) {ids : List String} (long : 2 ≤ ids.length)
    (valid : ∀ id ∈ ids, isId id.toList = true) {label : Option String}
    (whole : ∀ text ∈ label, '\n' ∉ text.toList) :
    (ofLines (before ++ String.ofList (chainLine ids label) ++ after)).mapError Fault.unnumbered
      = (ofLines (before ++ joined (hopLines label ids) ++ after)).mapError Fault.unnumbered := by
  obtain ⟨above, read_above⟩ := begins.exists_readings
  obtain ⟨below, read_below⟩ := ends.exists_readings
  have entered : ∀ ls : List (List Char), ls ≠ [] → (∀ line ∈ ls, '\n' ∉ line) →
      Draft.empty.addLines 1 (lines (before ++ joined ls ++ after).toList)
        = Draft.empty.addLines 1 (above ++ (ls ++ below)) := by
    intro ls some_lines whole_lines
    refine Draft.addLines_of_readings ?_ Draft.empty 1
    rw [String.toList_append, String.toList_append, joined, String.toList_ofList, read_below,
      read_above, readings_intercalate some_lines whole_lines, List.map_append, List.map_append,
      List.append_assoc]
  have line : String.ofList (chainLine ids label) = joined [chainLine ids label] := by
    rw [joined, List.intercalate_singleton]
  have same : ∀ (draft : Draft) (number : Nat),
      (draft.addLines number ([chainLine ids label] ++ below)).mapError Fault.unnumbered
        = (draft.addLines number (hopLines label ids ++ below)).mapError Fault.unnumbered := by
    intro draft number
    have added := draft.add_chain ids (readLabel label)
    rw [Draft.leads_line (ofLine_chainLine valid long label) added number below,
      Draft.leads_hopLines valid long added number below]
    exact Draft.addLines_unnumbered below _ _ _
  rw [line, ofLines, ofLines, mapError_bind, mapError_bind,
    entered _ (List.cons_ne_nil _ _) (List.forall_mem_singleton.mpr (whole_chainLine valid whole)),
    entered _ (hopLines_ne_nil label ids) (whole_hopLines valid whole),
    Draft.addLines_append_unnumbered same above]

/-- The ids of a chain that comes back to where it was. -/
def roundTrip : List String := ["a", "b", "a", "c"]

theorem ofLines_chain_roundTrip :
    joined (hopLines (some " x -> y: z") roundTrip) = "a -> b\nb -> a\na -> c:  x -> y: z" ∧
      (∃ d, ofLines "b \x7bReady?\x7d\na -> b -> a -> c:  x -> y: z\r\n" = .ok d ∧
        (ofLines "b \x7bReady?\x7d\na -> b\nb -> a\na -> c:  x -> y: z\r\n").mapError
          Fault.unnumbered = .ok d) ∧
      ofLines "b \x7bReady?\x7d\na -> b -> a -> c:  x -> y: z\nb = d"
        = .error (.line 3 (.invalidShape "b = d")) ∧
      (ofLines "b \x7bReady?\x7d\na -> b\nb -> a\na -> c:  x -> y: z\nb = d").mapError
        Fault.unnumbered = .error (.line 0 (.invalidShape "b = d")) := by
  have begins : LineBegins "b \x7bReady?\x7d\n" := .inr (by decide +kernel)
  have valid : ∀ id ∈ roundTrip, isId id.toList = true := by decide +kernel
  have whole : ∀ text ∈ some " x -> y: z", '\n' ∉ text.toList := by decide +kernel
  have read : ∃ d, ofLines "b \x7bReady?\x7d\na -> b -> a -> c:  x -> y: z\r\n" = .ok d :=
    ⟨⟨none, .topBottom, [⟨"b", "Ready?", .diamond⟩, .plain "a", .plain "c"],
      [⟨"a", "b", none⟩, ⟨"b", "a", none⟩, ⟨"a", "c", some "x -> y: z"⟩]⟩, by decide +kernel⟩
  have refused : ofLines "b \x7bReady?\x7d\na -> b -> a -> c:  x -> y: z\nb = d"
      = .error (.line 3 (.invalidShape "b = d")) := by decide +kernel
  refine ⟨by decide +kernel, read.imp fun d same => ⟨same, ?_⟩, refused, ?_⟩
  · have ends : LineEnds "\r\n" := .inr (.inr (by decide +kernel))
    have alike := ofLines_chain begins ends (by decide) valid whole
    exact alike.symm.trans (congrArg (Except.mapError Fault.unnumbered) same)
  · have ends : LineEnds "\nb = d" := .inr (.inl (by decide +kernel))
    have alike := ofLines_chain begins ends (by decide) valid whole
    exact alike.symm.trans (congrArg (Except.mapError Fault.unnumbered) refused)

end Draftsman.Diagram
