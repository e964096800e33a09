/-
How the search for edges that close a cycle goes.

`Traversal` relates a search to what it has done: the arcs it has followed, and the nodes
it has left, the last one first in either list.  It has one case for every kind of move,
and `Traversal.step` says that the search makes no others; nothing else here looks into
how a search goes on.

The nodes on the stack, from the bottom to the top, and behind them the nodes that have
been left, the last one first, are the *line* of a search.  A node is put into the line
when it is entered, and then stays where it is, for leaving it only moves the border
between the two parts.  The marks tell where a node is in the line, and how far a node is
tells which of its arcs have been followed.  Every step enters, follows or leaves
something that it has not done before, so the search comes to its end in the number of
steps that it is given.
-/
import Mathlib.Data.List.Nodup
import Mathlib.Data.List.Perm.Subperm
import Draftsman.Diagram.Graph

namespace Draftsman.Graph

/-! ### Proper graphs -/

/-- A graph whose arcs lead to nodes that are there, no two of them being the same edge. -/
structure Proper (g : Adjacency) : Prop where
  inside : ∀ node, ∀ arc ∈ arcsOf g node, arc.target < g.length
  distinct : (g.flatten.map Arc.edge).Nodup

variable {g : Adjacency}

theorem arcsOf_mem {node : Nat} (h : node < g.length) : arcsOf g node ∈ g := by
  rw [arcsOf, List.getD_eq_getElem?_getD, List.getElem?_eq_getElem h]
  exact List.getElem_mem h

theorem lt_length_of_mem_arcsOf {node : Nat} {arc : Arc} (h : arc ∈ arcsOf g node) :
    node < g.length := by
  refine Nat.lt_of_not_le fun out => ?_
  rw [arcsOf, List.getD_eq_getElem?_getD, List.getElem?_eq_none out] at h
  cases h

theorem Proper.arcsOf_nodup (proper : Proper g) {node : Nat} (h : node < g.length) :
    ((arcsOf g node).map Arc.edge).Nodup := by
  have distinct := proper.distinct
  rw [List.map_flatten, List.nodup_flatten] at distinct
  exact distinct.1 _ (List.mem_map_of_mem (arcsOf_mem h))

/-- An edge leaves one node only. -/
theorem Proper.source_unique (proper : Proper g) {u v : Nat} {a b : Arc}
    (ha : a ∈ arcsOf g u) (hb : b ∈ arcsOf g v) (same : a.edge = b.edge) : u = v := by
  have distinct := proper.distinct
  rw [List.map_flatten, List.nodup_flatten] at distinct
  by_contra other
  have hu := lt_length_of_mem_arcsOf ha
  have hv := lt_length_of_mem_arcsOf hb
  have apart := List.pairwise_iff_getElem.mp distinct.2
  have edges : ∀ (w : Nat) (h : w < (g.map (List.map Arc.edge)).length),
      (g.map (List.map Arc.edge))[w] = (arcsOf g w).map Arc.edge := by
    intro w h
    have hw : w < g.length := by simpa using h
    simp [arcsOf, List.getD_eq_getElem?_getD, List.getElem?_eq_getElem hw]
  rcases Nat.lt_or_gt_of_ne other with less | less
  · have disjoint := apart u v (by simpa using hu) (by simpa using hv) less
    rw [edges, edges] at disjoint
    exact disjoint (List.mem_map_of_mem ha) (same ▸ List.mem_map_of_mem hb)
  · have disjoint := apart v u (by simpa using hv) (by simpa using hu) less
    rw [edges, edges] at disjoint
    exact disjoint (same ▸ List.mem_map_of_mem hb) (List.mem_map_of_mem ha)

/-! ### What a search has done -/

/-- The searches that can come up, with the arcs followed and the nodes left, the last first. -/
inductive Traversal (g : Adjacency) : List (Nat × Arc) → List Nat → Search → Prop
  | start : Traversal g [] [] (.start g)
  /-- An arc leads to a node that has been entered and not left: it is set aside. -/
  | close {followed left s node arc arcs below} (before : Traversal g followed left s)
      (top : s.stack = ⟨node, arc :: arcs⟩ :: below) (known : s.mark arc.target = .active) :
      Traversal g ((node, arc) :: followed) left
        { s with stack := ⟨node, arcs⟩ :: below, back := arc.edge :: s.back }
  /-- An arc leads to a new node, which is entered. -/
  | enter {followed left s node arc arcs below} (before : Traversal g followed left s)
      (top : s.stack = ⟨node, arc :: arcs⟩ :: below) (new : s.mark arc.target = .fresh) :
      Traversal g ((node, arc) :: followed) left
        (Search.enter g { s with stack := ⟨node, arcs⟩ :: below } arc.target)
  /-- An arc leads to a node that has been left. -/
  | pass {followed left s node arc arcs below} (before : Traversal g followed left s)
      (top : s.stack = ⟨node, arc :: arcs⟩ :: below) (known : s.mark arc.target = .finished) :
      Traversal g ((node, arc) :: followed) left { s with stack := ⟨node, arcs⟩ :: below }
  /-- A node is left. -/
  | leave {followed left s node below} (before : Traversal g followed left s)
      (top : s.stack = ⟨node, []⟩ :: below) :
      Traversal g followed (node :: left)
        { s with marks := s.marks.set node .finished, stack := below }
  /-- The search starts anew. -/
  | begin {followed left s root roots} (before : Traversal g followed left s)
      (empty : s.stack = []) (next : s.roots = root :: roots) (new : s.mark root = .fresh) :
      Traversal g followed left (Search.enter g { s with roots } root)
  /-- The search does not start anew from a node it has come to before. -/
  | skip {followed left s root roots} (before : Traversal g followed left s)
      (empty : s.stack = []) (next : s.roots = root :: roots) (known : s.mark root ≠ .fresh) :
      Traversal g followed left { s with roots }

variable {followed : List (Nat × Arc)} {left : List Nat} {s : Search}
variable {node : Nat} {arc : Arc} {arcs : List Arc} {below : List Frame}

/-- Every step is a move; it follows an arc, leaves a node or takes a root. -/
theorem Traversal.step {next : Search} (t : Traversal g followed left s)
    (step : s.step g = some next) :
    ∃ followed' left', Traversal g followed' left' next ∧
      followed'.length + left'.length + s.roots.length
        = followed.length + left.length + next.roots.length + 1 := by
  unfold Search.step at step
  split at step
  · rename_i node arc arcs below top
    obtain rfl := Option.some.inj step
    refine ⟨(node, arc) :: followed, left, ?_, ?_⟩
    · unfold Search.follow
      split
      · rename_i known
        exact t.close top known
      · rename_i new
        exact t.enter top new
      · rename_i known
        exact t.pass top known
    · unfold Search.follow
      split <;> simp only [Search.enter, List.length_cons] <;> omega
  · rename_i node below top
    obtain rfl := Option.some.inj step
    refine ⟨followed, node :: left, t.leave top, ?_⟩
    simp only [List.length_cons]
    omega
  · rename_i root roots empty taken
    obtain rfl := Option.some.inj step
    refine ⟨followed, left, ?_, ?_⟩
    · split
      · rename_i new
        exact t.begin empty taken new
      · rename_i known
        exact t.skip empty taken known
    · split <;> simp only [taken, Search.enter, List.length_cons] <;> omega
  · cases step

/-- A run ends, or takes as many steps as it may. -/
theorem Traversal.run (t : Traversal g followed left s) (fuel : Nat) :
    ∃ followed' left', Traversal g followed' left' (s.run g fuel) ∧
      ((s.run g fuel).step g = none ∨
        followed'.length + left'.length + s.roots.length
          = followed.length + left.length + (s.run g fuel).roots.length + fuel) := by
  induction fuel generalizing followed left s with
  | zero => exact ⟨followed, left, t, Or.inr rfl⟩
  | succ fuel ih =>
    cases step : s.step g with
    | none =>
      have ended : s.run g (fuel + 1) = s := by rw [Search.run, step]
      rw [ended]
      exact ⟨followed, left, t, Or.inl step⟩
    | some next =>
      have goes : s.run g (fuel + 1) = next.run g fuel := by rw [Search.run, step]
      obtain ⟨followed₁, left₁, t₁, count₁⟩ := t.step step
      obtain ⟨followed₂, left₂, t₂, count₂⟩ := ih t₁
      rw [goes]
      exact ⟨followed₂, left₂, t₂, count₂.imp_right fun count => by omega⟩

/-! ### Marks and the line -/

@[simp] theorem Search.enter_stack (s : Search) (node : Nat) :
    (s.enter g node).stack = ⟨node, arcsOf g node⟩ :: s.stack := rfl

theorem Search.lt_of_mark {s : Search} {node : Nat} (h : s.mark node ≠ .finished) :
    node < s.marks.length := by
  refine Nat.lt_of_not_le fun out => h ?_
  rw [Search.mark, List.getD_eq_getElem?_getD, List.getElem?_eq_none out]
  rfl

theorem Search.mark_enter {s : Search} {node : Nat} (new : s.mark node = .fresh) (u : Nat) :
    (s.enter g node).mark u = if u = node then .active else s.mark u := by
  have inside : node < s.marks.length := Search.lt_of_mark (by rw [new]; exact nofun)
  rw [Search.mark, Search.mark, Search.enter, List.getD_eq_getElem?_getD, List.getElem?_set,
    List.getD_eq_getElem?_getD]
  by_cases same : u = node
  · simp [same, inside]
  · simp [same, Ne.symm same]

/-- What is fresh after a node has been entered was fresh before, and is another node. -/
theorem Search.fresh_of_enter {s : Search} {node u : Nat}
    (new : (s.enter g node).mark u = .fresh) : u ≠ node ∧ s.mark u = .fresh := by
  by_cases same : u = node
  · subst same
    rw [Search.mark, Search.enter, List.getD_eq_getElem?_getD, List.getElem?_set] at new
    simp only [if_true] at new
    split at new <;> cases new
  · refine ⟨same, ?_⟩
    rwa [Search.mark, Search.enter, List.getD_eq_getElem?_getD,
      List.getElem?_set_ne (Ne.symm same), ← List.getD_eq_getElem?_getD] at new

theorem Search.mark_leave (s : Search) (node : Nat) (below : List Frame) (u : Nat) :
    { s with marks := s.marks.set node .finished, stack := below : Search }.mark u
      = if u = node then .finished else s.mark u := by
  rw [Search.mark, Search.mark, List.getD_eq_getElem?_getD, List.getElem?_set,
    List.getD_eq_getElem?_getD]
  by_cases same : u = node
  · subst same
    simp only [if_true]
    split <;> rfl
  · simp [same, Ne.symm same]

/-- The nodes on the stack, from the bottom to the top, and those left, the last one first. -/
def Search.line (s : Search) (left : List Nat) : List Nat :=
  (s.stack.map Frame.node).reverse ++ left

theorem Search.line_of_stack (top : s.stack = ⟨node, arcs⟩ :: below) (left : List Nat) :
    s.line left = (below.map Frame.node).reverse ++ node :: left := by
  rw [Search.line, top, List.map_cons, List.reverse_cons, List.append_assoc]
  rfl

/-- The marks tell where a node is in the line. -/
structure Marked (g : Adjacency) (left : List Nat) (s : Search) : Prop where
  size : s.marks.length = g.length
  active : ∀ u, s.mark u = .active ↔ u ∈ s.stack.map Frame.node
  finished : ∀ u, u ∈ left ↔ u < g.length ∧ s.mark u = .finished
  nodup : (s.line left).Nodup

namespace Marked

theorem congr (m : Marked g left s) {s' : Search} (marks : s'.marks = s.marks)
    (nodes : s'.stack.map Frame.node = s.stack.map Frame.node) : Marked g left s' := by
  have same : ∀ u, s'.mark u = s.mark u := fun u => by rw [Search.mark, Search.mark, marks]
  refine ⟨by rw [marks, m.size], ?_, ?_, by rw [Search.line, nodes]; exact m.nodup⟩
  · intro u
    rw [same, nodes]
    exact m.active u
  · intro u
    rw [same]
    exact m.finished u

theorem not_mem_line (m : Marked g left s) {node : Nat} (new : s.mark node = .fresh) :
    node ∉ s.line left := by
  intro mem
  rcases List.mem_append.mp mem with mem | mem
  · rw [List.mem_reverse, ← m.active, new] at mem
    cases mem
  · rw [m.finished, new] at mem
    cases mem.2

theorem enter (m : Marked g left s) {node : Nat} (new : s.mark node = .fresh) :
    Marked g left (s.enter g node) := by
  have outside := m.not_mem_line new
  refine ⟨by simp [Search.enter, m.size], ?_, ?_, ?_⟩
  · intro u
    rw [Search.mark_enter new, Search.enter_stack, List.map_cons, List.mem_cons, ← m.active]
    by_cases same : u = node <;> simp [same]
  · intro u
    rw [Search.mark_enter new, m.finished]
    by_cases same : u = node
    · simp [same, new]
    · simp [same]
  · rw [Search.line_of_stack (s.enter_stack node), List.nodup_middle, List.nodup_cons]
    exact ⟨outside, m.nodup⟩

/-- The node on top of the stack is nowhere else in the line. -/
theorem top_only (m : Marked g left s) (top : s.stack = ⟨node, arcs⟩ :: below) :
    node ∉ below.map Frame.node ∧ node ∉ left := by
  have nodup := m.nodup
  rw [Search.line_of_stack top, List.nodup_middle, List.nodup_cons, List.mem_append,
    List.mem_reverse] at nodup
  exact not_or.mp nodup.1

theorem leave (m : Marked g left s) (top : s.stack = ⟨node, []⟩ :: below) :
    Marked g (node :: left) { s with marks := s.marks.set node .finished, stack := below } := by
  have nodup := m.nodup
  rw [Search.line_of_stack top] at nodup
  have inside : node < g.length := by
    rw [← m.size]
    refine Search.lt_of_mark ?_
    rw [(m.active node).mpr (by rw [top]; exact List.mem_cons_self)]
    exact nofun
  refine ⟨by simp [m.size], ?_, ?_, nodup⟩
  · intro u
    rw [Search.mark_leave]
    by_cases same : u = node
    · simp only [same, if_true, (m.top_only top).1, iff_false]
      exact nofun
    · rw [if_neg same, m.active, top, List.map_cons, List.mem_cons, or_iff_right same]
  · intro u
    rw [Search.mark_leave, List.mem_cons, m.finished]
    by_cases same : u = node <;> simp [same, inside]

end Marked

/-- At every point of a search the marks tell where a node is in the line. -/
theorem Traversal.marked (t : Traversal g followed left s) : Marked g left s := by
  induction t with
  | start =>
    have fresh : ∀ u, (Search.start g).mark u = .fresh ↔ u < g.length := by
      intro u
      by_cases inside : u < g.length <;>
        simp [Search.start, Search.mark, List.getD_eq_getElem?_getD, inside]
    refine ⟨by simp [Search.start], ?_, ?_, List.nodup_nil⟩
    · intro u
      by_cases inside : u < g.length <;>
        simp [Search.start, Search.mark, List.getD_eq_getElem?_getD, inside]
    · intro u
      rw [List.mem_nil_iff, false_iff]
      rintro ⟨inside, left⟩
      rw [(fresh u).mpr inside] at left
      cases left
  | close _ top _ ih => exact ih.congr rfl (by rw [top]; rfl)
  | enter _ top new ih =>
    refine Marked.enter ?_ new
    exact ih.congr rfl (by rw [top]; rfl)
  | pass _ top _ ih => exact ih.congr rfl (by rw [top]; rfl)
  | leave _ top ih => exact ih.leave top
  | begin _ _ _ new ih =>
    refine Marked.enter ?_ new
    exact ih.congr rfl rfl
  | skip _ _ _ _ ih => exact ih.congr rfl rfl

/-- The search has still to start from every node that it has not come to. -/
theorem Traversal.fresh_mem_roots (t : Traversal g followed left s) {u : Nat}
    (new : s.mark u = .fresh) : u ∈ s.roots := by
  induction t with
  | start =>
    have inside := Search.lt_of_mark (s := .start g) (by rw [new]; exact nofun)
    exact List.mem_range.mpr (by simpa [Search.start] using inside)
  | close _ _ _ ih => exact ih new
  | enter _ _ _ ih => exact ih (Search.fresh_of_enter new).2
  | pass _ _ _ ih => exact ih new
  | leave _ _ ih =>
    rw [Search.mark_leave] at new
    split at new
    · cases new
    · exact ih new
  | begin _ _ next _ ih =>
    obtain ⟨other, new⟩ := Search.fresh_of_enter new
    have mem := ih new
    rw [next] at mem
    exact (List.mem_cons.mp mem).resolve_left other
  | skip _ _ next known ih =>
    have mem := ih new
    rw [next] at mem
    refine (List.mem_cons.mp mem).resolve_left ?_
    rintro rfl
    exact known new

/-! ### The arcs that have been followed -/

/-- The arcs of a node that have been followed, the first one first. -/
def followedFrom (followed : List (Nat × Arc)) (node : Nat) : List Arc :=
  ((followed.filter fun link => link.1 == node).map Prod.snd).reverse

theorem followedFrom_cons_self (followed : List (Nat × Arc)) (node : Nat) (arc : Arc) :
    followedFrom ((node, arc) :: followed) node = followedFrom followed node ++ [arc] := by
  simp [followedFrom]

theorem followedFrom_cons_of_ne (followed : List (Nat × Arc)) {node other : Nat} (arc : Arc)
    (h : other ≠ node) :
    followedFrom ((other, arc) :: followed) node = followedFrom followed node := by
  simp [followedFrom, h]

theorem mem_followedFrom {followed : List (Nat × Arc)} {node : Nat} {arc : Arc} :
    arc ∈ followedFrom followed node ↔ (node, arc) ∈ followed := by
  simp [followedFrom]

/-- The arcs of a node are followed in their order, and all of them before it is left. -/
structure InOrder (g : Adjacency) (followed : List (Nat × Arc)) (left : List Nat) (s : Search) :
    Prop where
  fresh : ∀ u, s.mark u = .fresh → followedFrom followed u = []
  frame : ∀ frame ∈ s.stack, followedFrom followed frame.node ++ frame.arcs = arcsOf g frame.node
  left : ∀ u ∈ left, followedFrom followed u = arcsOf g u
  within : ∀ u arc, (u, arc) ∈ followed → arc ∈ arcsOf g u

namespace InOrder

theorem follow (o : InOrder g followed left s) (m : Marked g left s)
    (top : s.stack = ⟨node, arc :: arcs⟩ :: below) {s' : Search} (marks : s'.marks = s.marks)
    (stack : s'.stack = ⟨node, arcs⟩ :: below) : InOrder g ((node, arc) :: followed) left s' := by
  obtain ⟨lower, gone⟩ := m.top_only top
  have active : s.mark node = .active := (m.active node).mpr (by rw [top]; exact List.mem_cons_self)
  have here := o.frame ⟨node, arc :: arcs⟩ (by rw [top]; exact List.mem_cons_self)
  refine ⟨?_, ?_, ?_, ?_⟩
  · intro u new
    have same : s.mark u = .fresh := by rw [← new, Search.mark, Search.mark, marks]
    rw [followedFrom_cons_of_ne, o.fresh u same]
    rintro rfl
    rw [active] at same
    cases same
  · intro frame mem
    rw [stack] at mem
    rcases List.mem_cons.mp mem with rfl | deeper
    · rw [followedFrom_cons_self, List.append_assoc]
      exact here
    · rw [followedFrom_cons_of_ne,
        o.frame frame (by rw [top]; exact List.mem_cons_of_mem _ deeper)]
      rintro rfl
      exact lower (List.mem_map_of_mem deeper)
  · intro u mem
    rw [followedFrom_cons_of_ne, o.left u mem]
    rintro rfl
    exact gone mem
  · intro u other mem
    rcases List.mem_cons.mp mem with same | mem
    · obtain ⟨rfl, rfl⟩ := Prod.mk.inj same
      rw [← here]
      exact List.mem_append_right _ List.mem_cons_self
    · exact o.within u other mem

theorem enter (o : InOrder g followed left s) {node : Nat} (new : s.mark node = .fresh) :
    InOrder g followed left (s.enter g node) := by
  refine ⟨fun u fresh => o.fresh u (Search.fresh_of_enter fresh).2, ?_, o.left, o.within⟩
  intro frame mem
  rcases List.mem_cons.mp mem with rfl | mem
  · rw [o.fresh node new, List.nil_append]
  · exact o.frame frame mem

theorem leave (o : InOrder g followed left s) (top : s.stack = ⟨node, []⟩ :: below) :
    InOrder g followed (node :: left)
      { s with marks := s.marks.set node .finished, stack := below } := by
  refine ⟨?_, ?_, ?_, o.within⟩
  · intro u fresh
    rw [Search.mark_leave] at fresh
    split at fresh
    · cases fresh
    · exact o.fresh u fresh
  · intro frame mem
    exact o.frame frame (by rw [top]; exact List.mem_cons_of_mem _ mem)
  · intro u mem
    rcases List.mem_cons.mp mem with rfl | mem
    · have all := o.frame ⟨u, []⟩ (by rw [top]; exact List.mem_cons_self)
      rwa [List.append_nil] at all
    · exact o.left u mem

end InOrder

/-- At every point of a search the arcs of each node have been followed in their order. -/
theorem Traversal.inOrder (t : Traversal g followed left s) : InOrder g followed left s := by
  induction t with
  | start => exact ⟨fun _ _ => rfl, nofun, nofun, nofun⟩
  | close before top _ ih => exact ih.follow before.marked top rfl rfl
  | enter before top new ih =>
    refine InOrder.enter ?_ new
    exact ih.follow before.marked top rfl rfl
  | pass before top _ ih => exact ih.follow before.marked top rfl rfl
  | leave _ top ih => exact ih.leave top
  | begin _ _ _ new ih =>
    refine InOrder.enter ?_ new
    exact ⟨ih.fresh, ih.frame, ih.left, ih.within⟩
  | skip _ _ _ _ ih => exact ⟨ih.fresh, ih.frame, ih.left, ih.within⟩

/-- The arc that is followed next is one of the node on top of the stack. -/
theorem Traversal.next_arc (t : Traversal g followed left s)
    (top : s.stack = ⟨node, arc :: arcs⟩ :: below) : arc ∈ arcsOf g node := by
  rw [← t.inOrder.frame ⟨node, arc :: arcs⟩ (by rw [top]; exact List.mem_cons_self)]
  exact List.mem_append_right _ List.mem_cons_self

/-- The arc that is followed next is another edge than those followed before. -/
theorem Traversal.new_edge (t : Traversal g followed left s) (proper : Proper g)
    (top : s.stack = ⟨node, arc :: arcs⟩ :: below) :
    ∀ link ∈ followed, link.2.edge ≠ arc.edge := by
  rintro ⟨u, other⟩ mem same
  have here := t.inOrder.frame ⟨node, arc :: arcs⟩ (by rw [top]; exact List.mem_cons_self)
  have mine := t.next_arc top
  obtain rfl : u = node := proper.source_unique (t.inOrder.within u other mem) mine same
  have nodup := proper.arcsOf_nodup (lt_length_of_mem_arcsOf mine)
  rw [← here, List.map_append] at nodup
  exact List.disjoint_of_nodup_append nodup
    (List.mem_map_of_mem (mem_followedFrom.mpr mem)) (same ▸ List.mem_cons_self)

/-- No edge is followed twice. -/
theorem Traversal.edges_nodup (t : Traversal g followed left s) (proper : Proper g) :
    (followed.map fun link => link.2.edge).Nodup := by
  have further : ∀ {followed left s} {node : Nat} {arc : Arc} {arcs : List Arc}
      {below : List Frame}, Traversal g followed left s →
      s.stack = ⟨node, arc :: arcs⟩ :: below →
      (followed.map fun link => link.2.edge).Nodup →
      (((node, arc) :: followed).map fun link => link.2.edge).Nodup := by
    intro followed left s node arc arcs below before top ih
    refine List.nodup_cons.mpr ⟨?_, ih⟩
    intro mem
    obtain ⟨link, mem, same⟩ := List.mem_map.mp mem
    exact before.new_edge proper top link mem same
  induction t with
  | start => exact List.nodup_nil
  | close before top _ ih => exact further before top ih
  | enter before top _ ih => exact further before top ih
  | pass before top _ ih => exact further before top ih
  | leave _ _ ih => exact ih
  | begin _ _ _ _ ih => exact ih
  | skip _ _ _ _ ih => exact ih

/-! ### The end of the search -/

/-- The search, taken to its end. -/
def Search.whole (g : Adjacency) : Search := (Search.start g).run g (searchSteps g)

theorem Search.stack_of_step_eq_none {s : Search} (h : s.step g = none) :
    s.stack = [] ∧ s.roots = [] := by
  unfold Search.step at h
  split at h
  · cases h
  · cases h
  · cases h
  · rename_i stack roots
    exact ⟨stack, roots⟩

/-- No more arcs are followed than there are. -/
theorem Traversal.followed_length_le (t : Traversal g followed left s) (proper : Proper g) :
    followed.length ≤ arcCount g := by
  have subset : (followed.map fun link => link.2.edge) ⊆ g.flatten.map Arc.edge := by
    intro edge mem
    obtain ⟨⟨u, arc⟩, link, rfl⟩ := List.mem_map.mp mem
    have here := t.inOrder.within u arc link
    exact List.mem_map_of_mem
      (List.mem_flatten.mpr ⟨_, arcsOf_mem (lt_length_of_mem_arcsOf here), here⟩)
  have fewer := (List.subperm_of_subset (t.edges_nodup proper) subset).length_le
  rwa [List.length_map, List.length_map] at fewer

/-- Nodes that have been left are nodes of the graph. -/
theorem Marked.left_subset (m : Marked g left s) :
    left.Nodup ∧ left ⊆ List.range g.length :=
  ⟨(List.nodup_append.mp m.nodup).2.1, fun _ mem => List.mem_range.mpr ((m.finished _).mp mem).1⟩

/-- The search comes to its end, and has then left every node. -/
theorem Search.whole_traversal (proper : Proper g) :
    ∃ followed left, Traversal g followed left (Search.whole g) ∧
      (Search.whole g).stack = [] ∧ (Search.whole g).roots = [] ∧
      ∀ u, u ∈ left ↔ u < g.length := by
  obtain ⟨followed, left, t, ended⟩ := (Traversal.start (g := g)).run (searchSteps g)
  change Traversal g followed left (Search.whole g) at t
  change (Search.whole g).step g = none ∨ _ + _ + _ = _ + _ + (Search.whole g).roots.length + _
    at ended
  have m := t.marked
  obtain ⟨nodup, within⟩ := m.left_subset
  rcases ended with ended | count
  · obtain ⟨stack, roots⟩ := Search.stack_of_step_eq_none ended
    refine ⟨followed, left, t, stack, roots, fun u => ⟨fun mem => ((m.finished u).mp mem).1, ?_⟩⟩
    intro inside
    refine (m.finished u).mpr ⟨inside, ?_⟩
    cases mark : (Search.whole g).mark u with
    | fresh =>
      have root := t.fresh_mem_roots mark
      rw [roots] at root
      cases root
    | active =>
      have entered := (m.active u).mp mark
      rw [stack] at entered
      cases entered
    | finished => rfl
  · have arcs := t.followed_length_le proper
    have nodes := (List.subperm_of_subset nodup within).length_le
    simp only [Search.start, searchSteps, List.length_nil, List.length_range] at count nodes
    have all : left.Perm (List.range g.length) :=
      (List.subperm_of_subset nodup within).perm_of_length_le (by rw [List.length_range]; omega)
    refine ⟨followed, left, t, ?_, List.eq_nil_of_length_eq_zero (by omega), fun u => ?_⟩
    · cases stack : (Search.whole g).stack with
      | nil => rfl
      | cons top below =>
        have mark := (m.active top.node).mpr (by rw [stack]; exact List.mem_cons_self)
        have inside : top.node < g.length := by
          rw [← m.size]
          exact Search.lt_of_mark (by rw [mark]; exact nofun)
        exact absurd (all.mem_iff.mpr (List.mem_range.mpr inside)) (m.top_only stack).2
    · rw [all.mem_iff, List.mem_range]

/-- At its end a search has followed every arc. -/
theorem Traversal.followed_iff (t : Traversal g followed left s)
    (all : ∀ u, u ∈ left ↔ u < g.length) (u : Nat) (arc : Arc) :
    (u, arc) ∈ followed ↔ arc ∈ arcsOf g u := by
  refine ⟨t.inOrder.within u arc, fun mem => ?_⟩
  rw [← mem_followedFrom, t.inOrder.left u ((all u).mpr (lt_length_of_mem_arcsOf mem))]
  exact mem

end Draftsman.Graph
