/-
The search and the layering of a graph with every access checked.

`Search` and `Layering` look up what is not in a table as if it were something harmless, and
a count that is taken one from stays at zero.  Here the two loops are written once more, over
tables of a fixed size: an index outside a table and a count below zero are *slips*, at which
a loop breaks off.  The nodes of the stack come with the number of their arcs that have been
followed, and what closes a cycle is a table of flags, one for every edge.  Both loops also
note what they do, and never look at their notes.

A loop *ends* if it comes, one step after the other and without a slip, to where it stops.
Each of the two is carried along beside the unchecked one: `Traversal` has a case for every
move of the search, and `Queued` says that a node with an arc still to be followed waits for
it, so that its count is not yet zero.
-/
import Draftsman.Proofs.Diagram.Layering

namespace Draftsman.Graph

/-! ### Slips -/

/-- What breaks off a loop. -/
inductive Slip where
  /-- There is no such entry in a table. -/
  | index
  /-- A count would fall below zero. -/
  | underflow
  deriving DecidableEq, Repr

/-- The entry of a table at an index. -/
def entry {α : Type} (table : List α) (index : Nat) : Except Slip α :=
  match table[index]? with
  | some a => .ok a
  | none => .error .index

/-- The table with another entry at an index. -/
def replaced {α : Type} (table : List α) (index : Nat) (a : α) : Except Slip (List α) :=
  if index < table.length then .ok (table.set index a) else .error .index

/-- One less. -/
def lowered : Nat → Except Slip Nat
  | 0 => .error .underflow
  | n + 1 => .ok n

/-- A loop ends: it comes from one state to another step by step, and stops there. -/
def Ends {σ : Type} (step : σ → Except Slip (Option σ)) (first last : σ) : Prop :=
  Relation.ReflTransGen (fun s next => step s = .ok (some next)) first last ∧ step last = .ok none

/-! ### The search -/

/-- A search under way. -/
structure Walk where
  marks : List Mark
  /-- Whether each edge has been found to close a cycle. -/
  back : List Bool
  /-- The node from which to start next, unless the search has come to it before. -/
  root : Nat
  /-- The nodes entered and not left, each with the number of its arcs that were followed. -/
  stack : List (Nat × Nat)
  /-- The arcs that were followed, the last one first. -/
  followed : List (Nat × Arc)
  deriving DecidableEq, Repr

/-- The search that has not begun. -/
def Walk.start (g : Adjacency) (edges : Nat) : Walk where
  marks := g.map fun _ => .fresh
  back := List.replicate edges false
  root := 0
  stack := []
  followed := []

/-- Follows an arc. -/
def Walk.follow (w : Walk) (arc : Arc) : Except Slip Walk := do
  match ← entry w.marks arc.target with
  | .active => .ok { w with back := ← replaced w.back arc.edge true }
  | .fresh =>
    let marks ← replaced w.marks arc.target .active
    .ok { w with marks, stack := (arc.target, 0) :: w.stack }
  | .finished => .ok w

/-- The next step: follows an arc, leaves a node, or goes on to the next root. -/
def Walk.step (g : Adjacency) (w : Walk) : Except Slip (Option Walk) := do
  match w.stack with
  | (node, count) :: below =>
    match (← entry g node)[count]? with
    | some arc =>
      let stack := (node, count + 1) :: below
      some <$> Walk.follow { w with stack, followed := (node, arc) :: w.followed } arc
    | none => .ok (some { w with marks := ← replaced w.marks node .finished, stack := below })
  | [] =>
    if w.root < g.length then
      let next := { w with root := w.root + 1 }
      match ← entry w.marks w.root with
      | .fresh =>
        let marks ← replaced w.marks w.root .active
        .ok (some { next with marks, stack := [(w.root, 0)] })
      | _ => .ok (some next)
    else .ok none

/-! ### The layering -/

/-- Nodes that are being put into layers. -/
structure Drain extends Layering where
  /-- The nodes that were taken, the last one first. -/
  taken : List Nat
  /-- The arcs for which a count was lowered, the last one first. -/
  settled : List (Nat × Arc)
  deriving DecidableEq, Repr

/-- Counts an arc, unless it is set aside. -/
def countArc (back : List Bool) (waiting : List Nat) (arc : Arc) : Except Slip (List Nat) := do
  if ← entry back arc.edge then .ok waiting
  else replaced waiting arc.target ((← entry waiting arc.target) + 1)

/-- Nothing has been followed yet. -/
def Drain.start (g : Adjacency) (back : List Bool) : Except Slip Drain := do
  let waiting ← g.flatten.foldlM (countArc back) (List.replicate g.length 0)
  let ready ← (List.range g.length).filterM fun node => do .ok ((← entry waiting node) == 0)
  .ok { layers := List.replicate g.length 0, waiting, ready, taken := [], settled := [] }

/-- Follows an arc of a node, unless it is set aside. -/
def Drain.follow (back : List Bool) (node : Nat) (d : Drain) (arc : Arc) : Except Slip Drain := do
  if ← entry back arc.edge then .ok d
  else
    let layer := max (← entry d.layers arc.target) ((← entry d.layers node) + 1)
    let layers ← replaced d.layers arc.target layer
    let left ← lowered (← entry d.waiting arc.target)
    let waiting ← replaced d.waiting arc.target left
    let ready := if left = 0 then d.ready ++ [arc.target] else d.ready
    .ok { d with layers, waiting, ready, settled := (node, arc) :: d.settled }

/-- Takes the next node that is ready and follows its arcs. -/
def Drain.step (g : Adjacency) (back : List Bool) (d : Drain) : Except Slip (Option Drain) :=
  match d.ready with
  | [] => .ok none
  | node :: ready => do
    let arcs ← entry g node
    some <$> arcs.foldlM (Drain.follow back node) { d with ready, taken := node :: d.taken }

/-! ### Tables -/

variable {g : Adjacency} {edges : Nat}

theorem ok_bind {α β : Type} (a : α) (f : α → Except Slip β) : Except.ok a >>= f = f a := rfl

theorem map_ok {α β : Type} (f : α → β) (a : α) :
    f <$> (Except.ok a : Except Slip α) = .ok (f a) := rfl

theorem entry_of_lt {α : Type} (table : List α) {index : Nat} (inside : index < table.length)
    (absent : α) : entry table index = .ok (table.getD index absent) := by
  rw [entry, List.getD_eq_getElem?_getD, List.getElem?_eq_getElem inside]
  rfl

theorem replaced_of_lt {α : Type} (table : List α) {index : Nat} (inside : index < table.length)
    (a : α) : replaced table index a = .ok (table.set index a) := if_pos inside

theorem entry_arcs {node : Nat} (inside : node < g.length) :
    entry g node = .ok (arcsOf g node) := entry_of_lt g inside []

/-- For every edge, whether it is one of some. -/
def flags (edges : Nat) (back : List Nat) : List Bool := (List.range edges).map back.contains

theorem flags_nil (edges : Nat) : flags edges [] = List.replicate edges false := by
  refine List.ext_getElem (by simp [flags]) fun i _ _ => ?_
  simp [flags]

theorem entry_flags (back : List Nat) {edge : Nat} (numbered : edge < edges) :
    entry (flags edges back) edge = .ok (back.contains edge) := by
  simp [entry, flags, numbered]

theorem replaced_flags (back : List Nat) {edge : Nat} (numbered : edge < edges) :
    replaced (flags edges back) edge true = .ok (flags edges (edge :: back)) := by
  rw [replaced_of_lt _ (by simpa [flags] using numbered)]
  congr 1
  refine List.ext_getElem (by simp [flags]) fun i _ _ => ?_
  rw [List.getElem_set]
  by_cases same : i = edge
  · simp [flags, same]
  · simp [flags, same, Ne.symm same]

/-! ### The search makes no slip -/

/-- The rest of the arcs of a node. -/
def frameOf (g : Adjacency) (place : Nat × Nat) : Frame :=
  ⟨place.1, (arcsOf g place.1).drop place.2⟩

/-- The checked search is where the unchecked one is. -/
structure Walk.Shows (g : Adjacency) (edges : Nat) (followed : List (Nat × Arc)) (s : Search)
    (w : Walk) : Prop where
  marks : w.marks = s.marks
  back : w.back = flags edges s.back
  roots : s.roots = List.range' w.root (g.length - w.root)
  stack : s.stack = w.stack.map (frameOf g)
  followed : w.followed = followed

section Walk

variable {followed : List (Nat × Arc)} {left : List Nat} {s : Search} {w : Walk}
variable {node : Nat} {arc : Arc} {arcs : List Arc} {below : List Frame}

theorem Walk.Shows.exists_top (shows : w.Shows g edges followed s)
    (top : s.stack = ⟨node, arcs⟩ :: below) :
    ∃ count places, w.stack = (node, count) :: places ∧ (arcsOf g node).drop count = arcs ∧
      places.map (frameOf g) = below := by
  have stack := shows.stack
  rw [top] at stack
  obtain ⟨⟨u, count⟩, places, split, same, behind⟩ := List.map_eq_cons_iff.mp stack.symm
  obtain ⟨rfl, rest⟩ := Frame.mk.inj same
  exact ⟨count, places, split, rest, behind⟩

/-- The mark of a node is found in its table. -/
theorem Walk.Shows.entry_mark (shows : w.Shows g edges followed s) (m : Marked g left s)
    (inside : node < g.length) : entry w.marks node = .ok (s.mark node) := by
  rw [shows.marks]
  exact entry_of_lt _ (by rw [m.size]; exact inside) _

theorem Walk.Shows.replaced_mark (shows : w.Shows g edges followed s) (m : Marked g left s)
    (inside : node < g.length) (mark : Mark) :
    replaced w.marks node mark = .ok (s.marks.set node mark) := by
  rw [shows.marks]
  exact replaced_of_lt _ (by rw [m.size]; exact inside) _

/-- Where an arc is left on top of the stack, it is followed. -/
theorem Walk.Shows.step_follow (shows : w.Shows g edges followed s) (inside : node < g.length)
    (top : s.stack = ⟨node, arc :: arcs⟩ :: below) :
    ∃ stack, stack.map (frameOf g) = ⟨node, arcs⟩ :: below ∧
      w.step g
        = some <$> Walk.follow { w with stack, followed := (node, arc) :: followed } arc := by
  obtain ⟨count, places, stack, rest, behind⟩ := shows.exists_top top
  have next : (arcsOf g node)[count]? = some arc := by
    rw [← List.head?_drop, rest, List.head?_cons]
  have others : (arcsOf g node).drop (count + 1) = arcs := by
    rw [← List.tail_drop, rest, List.tail_cons]
  refine ⟨(node, count + 1) :: places, ?_, ?_⟩
  · rw [List.map_cons, behind, frameOf, others]
  · simp only [Walk.step, stack, entry_arcs inside, ok_bind, next, shows.followed]

/-- The roots that are left are the nodes from the next one on. -/
theorem Walk.Shows.next_root (shows : w.Shows g edges followed s) {root : Nat} {roots : List Nat}
    (next : s.roots = root :: roots) :
    w.root = root ∧ root < g.length ∧ roots = List.range' (root + 1) (g.length - (root + 1)) := by
  have same := shows.roots
  rw [next] at same
  have inside : w.root < g.length := by
    by_contra out
    rw [Nat.sub_eq_zero_of_le (Nat.le_of_not_lt out)] at same
    cases same
  obtain ⟨more, left⟩ : ∃ more, g.length - w.root = more + 1 :=
    ⟨g.length - w.root - 1, by omega⟩
  rw [left, List.range'_succ, List.cons.injEq] at same
  obtain ⟨rfl, rest⟩ := same
  exact ⟨rfl, inside, by rw [rest]; congr 1; omega⟩

/-- **The checked search goes wherever the unchecked one goes.** -/
theorem Traversal.exists_walk (t : Traversal g followed left s) (proper : Proper g)
    (numbered : ∀ node, ∀ arc ∈ arcsOf g node, arc.edge < edges) :
    ∃ w, Relation.ReflTransGen (fun w next => Walk.step g w = .ok (some next)) (.start g edges) w ∧
      w.Shows g edges followed s := by
  -- One case for every move; the entries that are asked for are there, as the marks say.
  induction t with
  | start =>
    refine ⟨_, .refl, rfl, (flags_nil edges).symm, ?_, rfl, rfl⟩
    exact List.range_eq_range'
  | @close followed left s node arc arcs below before top known ih =>
    obtain ⟨w, reached, shows⟩ := ih
    have mine := before.next_arc top
    obtain ⟨stack, same, step⟩ := shows.step_follow (lt_length_of_mem_arcsOf mine) top
    have mark := shows.entry_mark before.marked (proper.inside node arc mine)
    have flag := replaced_flags s.back (numbered node arc mine)
    rw [← shows.back] at flag
    simp only [Walk.follow, mark, known, flag, ok_bind, map_ok] at step
    exact ⟨_, reached.tail step, shows.marks, rfl, shows.roots, same.symm, rfl⟩
  | @enter followed left s node arc arcs below before top new ih =>
    obtain ⟨w, reached, shows⟩ := ih
    have mine := before.next_arc top
    have inside := proper.inside node arc mine
    obtain ⟨stack, same, step⟩ := shows.step_follow (lt_length_of_mem_arcsOf mine) top
    have mark := shows.entry_mark before.marked inside
    have marks := shows.replaced_mark before.marked inside .active
    simp only [Walk.follow, mark, new, marks, ok_bind, map_ok] at step
    refine ⟨_, reached.tail step, rfl, shows.back, shows.roots, ?_, rfl⟩
    rw [Search.enter_stack, List.map_cons, same]
    rfl
  | @pass followed left s node arc arcs below before top known ih =>
    obtain ⟨w, reached, shows⟩ := ih
    have mine := before.next_arc top
    obtain ⟨stack, same, step⟩ := shows.step_follow (lt_length_of_mem_arcsOf mine) top
    have mark := shows.entry_mark before.marked (proper.inside node arc mine)
    simp only [Walk.follow, mark, known, ok_bind, map_ok] at step
    exact ⟨_, reached.tail step, shows.marks, shows.back, shows.roots, same.symm, rfl⟩
  | @leave followed left s node below before top ih =>
    obtain ⟨w, reached, shows⟩ := ih
    obtain ⟨count, places, stack, rest, behind⟩ := shows.exists_top top
    have inside : node < g.length := by
      rw [← before.marked.size]
      refine Search.lt_of_mark ?_
      rw [(before.marked.active node).mpr (by rw [top]; exact List.mem_cons_self)]
      exact nofun
    have none : (arcsOf g node)[count]? = .none := by
      rw [← List.head?_drop, rest, List.head?_nil]
    have marks := shows.replaced_mark before.marked inside .finished
    have step : w.step g
        = .ok (some { w with marks := s.marks.set node .finished, stack := places }) := by
      simp only [Walk.step, stack, entry_arcs inside, none, marks, ok_bind]
    exact ⟨_, reached.tail step, rfl, shows.back, shows.roots, behind.symm, shows.followed⟩
  | @begin followed left s root roots before empty next new ih =>
    obtain ⟨w, reached, shows⟩ := ih
    obtain ⟨rfl, inside, rest⟩ := shows.next_root next
    have stack : w.stack = [] := List.map_eq_nil_iff.mp (shows.stack.symm.trans empty)
    have mark := shows.entry_mark before.marked inside
    have marks := shows.replaced_mark before.marked inside .active
    have step : w.step g = .ok (some { w with
        root := w.root + 1, marks := s.marks.set w.root .active, stack := [(w.root, 0)] }) := by
      simp only [Walk.step, stack, if_pos inside, mark, new, marks, ok_bind]
    refine ⟨_, reached.tail step, rfl, shows.back, rest, ?_, shows.followed⟩
    rw [Search.enter_stack, empty]
    rfl
  | @skip followed left s root roots before empty next known ih =>
    obtain ⟨w, reached, shows⟩ := ih
    obtain ⟨rfl, inside, rest⟩ := shows.next_root next
    have stack : w.stack = [] := List.map_eq_nil_iff.mp (shows.stack.symm.trans empty)
    have mark := shows.entry_mark before.marked inside
    have step : w.step g = .ok (some { w with root := w.root + 1 }) := by
      simp only [Walk.step, stack, if_pos inside, mark, ok_bind]
    refine ⟨_, reached.tail step, shows.marks, shows.back, rest, ?_, shows.followed⟩
    rw [stack, empty]
    rfl

/-- The arcs of a graph, each with the node that it leaves. -/
def links (g : Adjacency) : List (Nat × Arc) :=
  (List.range g.length).flatMap fun node => (arcsOf g node).map (node, ·)

theorem mem_links {u : Nat} {arc : Arc} : (u, arc) ∈ links g ↔ arc ∈ arcsOf g u := by
  simp only [links, List.mem_flatMap, List.mem_range, List.mem_map, Prod.mk.injEq]
  constructor
  · rintro ⟨_, -, _, mem, rfl, rfl⟩
    exact mem
  · intro mem
    exact ⟨u, lt_length_of_mem_arcsOf mem, arc, mem, rfl, rfl⟩

theorem flatMap_arcsOf (g : Adjacency) : (List.range g.length).flatMap (arcsOf g) = g.flatten := by
  have rows : (List.range g.length).map (arcsOf g) = g := by
    refine List.ext_getElem (by simp) fun i _ inside => ?_
    simp [arcsOf, inside]
  rw [List.flatMap_def, rows]

theorem mem_flatten {arc : Arc} : arc ∈ g.flatten ↔ ∃ node, arc ∈ arcsOf g node := by
  rw [← flatMap_arcsOf, List.mem_flatMap]
  constructor
  · rintro ⟨node, -, mine⟩
    exact ⟨node, mine⟩
  · rintro ⟨node, mine⟩
    exact ⟨node, List.mem_range.mpr (lt_length_of_mem_arcsOf mine), mine⟩

theorem map_snd_links (g : Adjacency) : (links g).map Prod.snd = g.flatten := by
  rw [← flatMap_arcsOf, links, List.map_flatMap]
  simp only [List.map_map, Function.comp_def, List.map_id']

theorem links_nodup (proper : Proper g) : (links g).Nodup := by
  have edges := proper.distinct
  rw [← map_snd_links, List.map_map] at edges
  exact edges.of_map _

/-- **The checked search ends**, has left every node and followed every arc once. -/
theorem exists_whole_walk (proper : Proper g)
    (numbered : ∀ node, ∀ arc ∈ arcsOf g node, arc.edge < edges) :
    ∃ w, Ends (Walk.step g) (.start g edges) w ∧ w.back = flags edges (backEdges g) ∧
      w.marks = List.replicate g.length .finished ∧ w.followed.Perm (links g) := by
  obtain ⟨followed, left, t, stack, roots, all⟩ := Search.whole_traversal proper
  obtain ⟨w, reached, shows⟩ := t.exists_walk proper numbered
  have size : w.marks.length = g.length := by rw [shows.marks, t.marked.size]
  refine ⟨w, ⟨reached, ?_⟩, shows.back, ?_, ?_⟩
  · have last := shows.roots
    rw [roots, eq_comm, List.range'_eq_nil_iff] at last
    have empty : w.stack = [] := List.map_eq_nil_iff.mp (shows.stack.symm.trans stack)
    simp only [Walk.step, empty, if_neg (show ¬ w.root < g.length by omega)]
  · refine List.eq_replicate_iff.mpr ⟨size, fun mark mem => ?_⟩
    obtain ⟨u, inside, rfl⟩ := List.getElem_of_mem mem
    have done := ((t.marked.finished u).mp ((all u).mpr (size ▸ inside))).2
    rwa [Search.mark, ← shows.marks, List.getD_eq_getElem?_getD, List.getElem?_eq_getElem inside]
      at done
  · rw [shows.followed]
    refine (List.perm_ext_iff_of_nodup ?_ (links_nodup proper)).mpr fun link => ?_
    · exact (t.edges_nodup proper).of_map _
    · exact (t.followed_iff all link.1 link.2).trans mem_links.symm

end Walk

/-! ### The layering makes no slip -/

variable {back : List Nat}

/-- Counting goes through all arcs, and passes over those that are set aside. -/
theorem foldlM_countArc (back : List Nat) (arcs counted : List Arc)
    (numbered : ∀ arc ∈ arcs, arc.edge < edges) {nodes : Nat}
    (inside : ∀ arc ∈ arcs, arc.target < nodes) :
    arcs.foldlM (countArc (flags edges back)) ((List.range nodes).map (indegree counted))
      = .ok ((List.range nodes).map
          (indegree (counted ++ arcs.filter fun arc => !back.contains arc.edge))) := by
  induction arcs generalizing counted with
  | nil => simp; rfl
  | cons arc arcs ih =>
    rw [List.forall_mem_cons] at numbered inside
    rw [List.foldlM_cons, countArc, entry_flags back numbered.1, ok_bind]
    cases aside : back.contains arc.edge with
    | true =>
      rw [List.filter_cons_of_neg (by simpa using aside)]
      exact ih counted numbered.2 inside.2
    | false =>
      have more : ((List.range nodes).map (indegree counted)).set arc.target
            (indegree counted arc.target + 1)
          = (List.range nodes).map (indegree (counted ++ [arc])) := by
        refine List.ext_getElem (by simp) fun i _ _ => ?_
        rw [List.getElem_set]
        by_cases same : arc.target = i
        · simp [indegree, same]
        · simp [indegree, same]
      have count : entry ((List.range nodes).map (indegree counted)) arc.target
          = .ok (indegree counted arc.target) := by
        simp [entry, inside.1]
      have table := replaced_of_lt ((List.range nodes).map (indegree counted))
        (by simpa using inside.1) (indegree counted arc.target + 1)
      rw [more] at table
      simp only [Bool.false_eq_true, if_false, count, table, ok_bind]
      rw [List.filter_cons_of_pos (by simpa using aside), ih _ numbered.2 inside.2,
        List.append_assoc, List.singleton_append]

theorem filterM_eq_ok {α : Type} {p : α → Except Slip Bool} {q : α → Bool} {as : List α}
    (same : ∀ a ∈ as, p a = .ok (q a)) : as.filterM p = .ok (as.filter q) := by
  have aux : ∀ found, as.filterAuxM p found = .ok ((as.filter q).reverse ++ found) := by
    induction as with
    | nil => exact fun _ => rfl
    | cons a as ih =>
      rw [List.forall_mem_cons] at same
      intro found
      rw [List.filterAuxM, same.1, ok_bind, ih same.2]
      cases kept : q a <;> simp [kept]
  rw [List.filterM, aux, ok_bind, List.append_nil, List.reverse_reverse]
  rfl

/-- The arcs that are not set aside. -/
theorem forwardArcs_eq (g : Adjacency) (back : List Nat) :
    forwardArcs g back = g.flatten.filter fun arc => !back.contains arc.edge := by
  rw [← flatMap_arcsOf, List.filter_flatMap]
  rfl

theorem Drain.start_eq (inside : ∀ arc ∈ g.flatten, arc.target < g.length)
    (numbered : ∀ arc ∈ g.flatten, arc.edge < edges) :
    Drain.start g (flags edges back) = .ok ⟨Layering.start g back, [], []⟩ := by
  have counted := foldlM_countArc back g.flatten [] numbered inside
  have zero : (List.range g.length).map (indegree []) = List.replicate g.length 0 := by
    refine List.ext_getElem (by simp) fun i _ _ => ?_
    simp [indegree]
  rw [zero, List.nil_append, ← forwardArcs_eq] at counted
  rw [Drain.start, counted, ok_bind, filterM_eq_ok (q := fun node =>
    ((List.range g.length).map (indegree (forwardArcs g back))).getD node 0 == 0), ok_bind]
  · simp [Layering.start, List.map_const']
  · intro node mem
    rw [entry_of_lt _ (by simpa using List.mem_range.mp mem) 0]
    rfl

section Drain

variable {node : Nat} {arc : Arc} {todo : List Arc} {rest : List Nat} {l : Layering}

/-- An arc that is not set aside is followed. -/
theorem Drain.follow_eq (q : Queued g back node (arc :: todo) rest l)
    (h : Layered g back node (arc :: todo) rest l) (inside : arc.target < g.length)
    (numbered : arc.edge < edges) (here : node < g.length) (taken : List Nat)
    (settled : List (Nat × Arc)) :
    Drain.follow (flags edges back) node ⟨l, taken, settled⟩ arc
      = .ok ⟨l.follow (l.layer node) arc, taken, (node, arc) :: settled⟩ := by
  have mine := (mem_forward.mp (h.mine arc List.mem_cons_self)).2
  have flag : entry (flags edges back) arc.edge = .ok false := by
    rw [entry_flags back numbered]
    simpa using mine
  obtain ⟨left, count⟩ := Nat.exists_eq_add_of_lt (q.target_waits inside).1
  rw [Nat.zero_add] at count
  have target := entry_of_lt l.layers (by rw [h.size]; exact inside) 0
  have own := entry_of_lt l.layers (by rw [h.size]; exact here) 0
  have waiting := entry_of_lt l.waiting (by rw [q.size]; exact inside) 0
  have layers := fun layer =>
    replaced_of_lt l.layers (by rw [h.size]; exact inside) layer
  have counts := fun count =>
    replaced_of_lt l.waiting (by rw [q.size]; exact inside) count
  change entry l.waiting arc.target = .ok (l.wait arc.target) at waiting
  simp only [Drain.follow, flag, target, own, waiting, layers, counts, count, lowered, ok_bind,
    Bool.false_eq_true, if_false]
  have same : l.waiting.getD arc.target 0 = left + 1 := count
  simp only [Layering.follow, same, Nat.add_sub_cancel]
  rfl

/-- The arcs of the node that has been taken are gone through, and those ahead are followed. -/
theorem Drain.foldlM_follow (arcs : List Arc)
    (q : Queued g back node (arcs.filter fun arc => !back.contains arc.edge) rest l)
    (h : Layered g back node (arcs.filter fun arc => !back.contains arc.edge) rest l)
    (inside : ∀ arc ∈ arcs, arc.target < g.length) (numbered : ∀ arc ∈ arcs, arc.edge < edges)
    (here : node < g.length) (taken : List Nat) (settled : List (Nat × Arc)) :
    arcs.foldlM (Drain.follow (flags edges back) node) ⟨l, taken, settled⟩
      = .ok ⟨(arcs.filter fun arc => !back.contains arc.edge).foldl
            (Layering.follow (l.layer node)) l, taken,
          ((arcs.filter fun arc => !back.contains arc.edge).map (node, ·)).reverse ++ settled⟩ := by
  induction arcs generalizing l settled with
  | nil => rfl
  | cons arc arcs ih =>
    rw [List.forall_mem_cons] at inside numbered
    rw [List.foldlM_cons]
    cases aside : back.contains arc.edge with
    | true =>
      rw [List.filter_cons_of_neg (by simpa using aside)] at q h ⊢
      rw [Drain.follow, entry_flags back numbered.1, ok_bind, if_pos aside, ok_bind]
      exact ih q h inside.2 numbered.2 settled
    | false =>
      rw [List.filter_cons_of_pos (by simpa using aside)] at q h ⊢
      have kept := q.layer_follow h inside.1 (l.layer node) (q.taken (List.cons_ne_nil _ _))
      rw [Drain.follow_eq q h inside.1 numbered.1 here, ok_bind,
        ih (q.follow inside.1 _) (h.follow q inside.1) inside.2 numbered.2, kept]
      simp

/-- One node is taken, and its arcs ahead are followed. -/
theorem Drain.step_eq {other : Nat} {ready : List Nat} (q : Queued g back other [] rest l)
    (h : Layered g back other [] rest l) (next : l.ready = node :: ready)
    (inside : ∀ u, ∀ arc ∈ arcsOf g u, arc.target < g.length)
    (numbered : ∀ u, ∀ arc ∈ arcsOf g u, arc.edge < edges) (taken : List Nat)
    (settled : List (Nat × Arc)) :
    Drain.step g (flags edges back) ⟨l, taken, settled⟩
      = .ok (some ⟨(forward g back node).foldl (Layering.follow (l.layer node)) { l with ready },
          node :: taken, ((forward g back node).map (node, ·)).reverse ++ settled⟩) := by
  obtain ⟨left, q'⟩ := q.take next
  have here := q.inside node left
  have all := Drain.foldlM_follow (arcsOf g node) q' (h.take left) (inside node)
    (numbered node) here (node :: taken) settled
  simp only [Drain.step, next, entry_arcs here, ok_bind, all, map_ok]
  rfl

/-- **The checked layering ends**, has taken every node that was left and settled its arcs. -/
theorem exists_whole_drain (q : Queued g back node [] rest l) (h : Layered g back node [] rest l)
    (inside : ∀ u, ∀ arc ∈ arcsOf g u, arc.target < g.length)
    (numbered : ∀ u, ∀ arc ∈ arcsOf g u, arc.edge < edges) {rank : Nat → Nat}
    (rising : ∀ u v, Leads g back u v → rank u < rank v) {fuel : Nat}
    (enough : rest.length ≤ fuel) (taken : List Nat) (settled : List (Nat × Arc)) :
    ∃ taken' settled', Ends (Drain.step g (flags edges back)) ⟨l, taken, settled⟩
        ⟨l.run g back fuel, taken', settled'⟩ ∧
      taken'.Perm (rest ++ taken) ∧
      settled'.Perm (outstanding g back node [] rest ++ settled) := by
  induction fuel generalizing node rest l taken settled with
  | zero =>
    obtain rfl := List.eq_nil_of_length_eq_zero (Nat.le_zero.mp enough)
    have none : l.ready = [] :=
      List.eq_nil_iff_forall_not_mem.mpr fun v mem => List.not_mem_nil ((q.ready v).mp mem).1
    refine ⟨taken, settled, ⟨.refl, ?_⟩, .refl _, .refl _⟩
    simp only [Drain.step, Layering.run, none]
  | succ fuel ih =>
    cases ready : l.ready with
    | nil =>
      -- Of nodes that are left, the one of the least rank would be ready.
      obtain rfl := q.exists_ready rising ready
      have ended : l.run g back (fuel + 1) = l := by simp [Layering.run, Layering.step, ready]
      refine ⟨taken, settled, ⟨?_, ?_⟩, .refl _, .refl _⟩
      · rw [ended]
      · simp only [Drain.step, ended, ready]
    | cons next ready' =>
      obtain ⟨left, first⟩ := q.take ready
      obtain ⟨q', h'⟩ := follow_all first (h.take left) fun arc mem =>
        inside next arc (mem_forward.mp mem).1
      have goes : l.run g back (fuel + 1)
          = ((forward g back next).foldl (Layering.follow (l.layer next))
              { l with ready := ready' }).run g back fuel := by
        simp [Layering.run, Layering.step, ready, Layering.layer]
      have fewer := List.length_erase_of_mem left
      obtain ⟨taken', settled', ⟨reached, ended⟩, nodes, arcs⟩ := ih q' h' (by omega)
        (next :: taken) (((forward g back next).map (next, ·)).reverse ++ settled)
      have step := Drain.step_eq q h ready inside numbered taken settled
      rw [goes]
      refine ⟨taken', settled', ⟨.head step reached, ended⟩, ?_, ?_⟩
      · refine nodes.trans (List.perm_middle.trans ?_)
        exact ((List.perm_cons_erase left).symm.append_right taken)
      · refine arcs.trans ?_
        rw [← List.append_assoc]
        refine List.Perm.append_right settled ?_
        refine .trans ?_ (outstanding_take g back node left).symm
        refine List.perm_append_comm.trans ?_
        exact (List.reverse_perm _).append_right _

end Drain

/-! ### Both loops -/

/-- The counts are those of the outstanding arcs. -/
theorem Queued.waiting_eq {node : Nat} {todo : List Arc} {rest : List Nat} {l : Layering}
    (q : Queued g back node todo rest l) :
    l.waiting = (List.range g.length).map fun v =>
      (outstanding g back node todo rest).countP (leadsTo v) := by
  refine List.ext_getElem (by simp [q.size]) fun v inside _ => ?_
  rw [List.getElem_map, List.getElem_range, ← q.wait v (q.size ▸ inside), Layering.wait,
    List.getD_eq_getElem?_getD, List.getElem?_eq_getElem inside]
  rfl

/-- The arcs of a graph that are not set aside, each with the node that it leaves. -/
def linksAhead (g : Adjacency) (back : List Nat) : List (Nat × Arc) :=
  (links g).filter fun link => !back.contains link.2.edge

theorem outstanding_all (g : Adjacency) (back : List Nat) (node : Nat) :
    outstanding g back node [] (List.range g.length) = linksAhead g back := by
  rw [linksAhead, links, List.filter_flatMap]
  simp only [outstanding, List.map_nil, List.nil_append, List.filter_map]
  rfl

/--
**Neither loop makes a slip, and both end.**  The search has then left every node and looked
at every arc once, and has found the edges that close a cycle.  The layering that sets these
aside counts for each node the arcs that lead to it, lowers the count once for each of them,
and takes every node once; in the end nothing is left to be counted, and every node is in
its layer.
-/
theorem loops_without_slip (proper : Proper g)
    (numbered : ∀ arc ∈ g.flatten, arc.edge < edges) :
    ∃ (w : Walk) (first last : Drain),
      Ends (Walk.step g) (.start g edges) w ∧
      w.marks = List.replicate g.length .finished ∧
      w.followed.Perm (links g) ∧
      w.back = flags edges (backEdges g) ∧
      Drain.start g w.back = .ok first ∧
      first.waiting = (List.range g.length).map
        (fun v => (linksAhead g (backEdges g)).countP (leadsTo v)) ∧
      Ends (Drain.step g w.back) first last ∧
      last.settled.Perm (linksAhead g (backEdges g)) ∧
      last.waiting = List.replicate g.length 0 ∧
      last.taken.Perm (List.range g.length) ∧
      last.layers = layers g (backEdges g) := by
  have targets : ∀ arc ∈ g.flatten, arc.target < g.length := by
    intro arc mem
    obtain ⟨node, mine⟩ := mem_flatten.mp mem
    exact proper.inside node arc mine
  have numbers : ∀ node, ∀ arc ∈ arcsOf g node, arc.edge < edges :=
    fun node arc mine => numbered arc (mem_flatten.mpr ⟨node, mine⟩)
  obtain ⟨w, walk, back, marks, followed⟩ := exists_whole_walk proper numbers
  obtain ⟨rank, rising⟩ := exists_rank proper
  have q := Queued.start g (backEdges g)
  have h := Layered.start g (backEdges g)
  have enough : (List.range g.length).length ≤ g.length := Nat.le_of_eq List.length_range
  obtain ⟨taken, settled, drain, nodes, arcs⟩ :=
    exists_whole_drain q h proper.inside numbers rising enough [] []
  obtain ⟨_, q', -⟩ := run_takes_all q h proper.inside rising enough
  rw [List.append_nil] at nodes arcs
  rw [outstanding_all] at arcs
  refine ⟨w, _, _, walk, marks, followed, back, back ▸ Drain.start_eq targets numbered, ?_,
    back ▸ drain, arcs, ?_, nodes, rfl⟩
  · rw [q.waiting_eq, outstanding_all]
  · rw [q'.waiting_eq]
    simp [outstanding, List.map_const']

/-- Three nodes in a row, with an edge from the second back to the first and one from the last to
itself. -/
def circles : Adjacency := [[⟨0, 1⟩], [⟨1, 2⟩, ⟨2, 0⟩], [⟨3, 2⟩]]

theorem loops_without_slip_circles :
    Proper circles ∧ (∀ arc ∈ circles.flatten, arc.edge < 4) ∧ ∃ (w : Walk) (first last : Drain),
      Ends (Walk.step circles) (.start circles 4) w ∧
      w.back = [false, false, true, true] ∧
      Drain.start circles w.back = .ok first ∧ first.waiting = [0, 1, 1] ∧
      Ends (Drain.step circles w.back) first last ∧
      last.settled.Perm [(0, ⟨0, 1⟩), (1, ⟨1, 2⟩)] ∧ last.layers = [0, 1, 2] := by
  have targets : ∀ arc ∈ circles.flatten, arc.target < circles.length := by decide
  have proper : Proper circles :=
    ⟨fun node arc mine => targets arc (mem_flatten.mpr ⟨node, mine⟩), by decide⟩
  have numbered : ∀ arc ∈ circles.flatten, arc.edge < 4 := by decide
  obtain ⟨w, first, last, walk, -, -, back, start, waiting, drain, settled, -, -, layers⟩ :=
    loops_without_slip proper numbered
  exact ⟨proper, numbered, w, first, last, walk, back, start, waiting, drain, settled, layers⟩

end Draftsman.Graph
