/-
What the layers of a graph are.

The nodes are taken one by one, and the arcs of a node are followed when it is taken.
What holds in between depends on the nodes that are left and on the arcs of the last node
that have still to be followed; these and the arcs of the nodes that are left are
*outstanding*.  `Queued` says that every node waits for the outstanding arcs to it, and
`Layered` that its layer is right as far as the other arcs go.  A node that has been taken
waits for none, so its layer does not change any more.

If the arcs that count lead upwards in some ranking of the nodes, the least of the nodes
left is always ready.  All nodes are taken then, and the layer of a node is the greatest
length of a way to it.
-/
import Mathlib.Data.List.Nodup
import Mathlib.Order.Bounds.Basic
import Draftsman.Proofs.Diagram.Cycles

namespace Draftsman.Graph

/-! ### Ways -/

/-- A way of `length` steps along a relation. -/
inductive Way (R : Nat → Nat → Prop) : (length : Nat) → Nat → Nat → Prop
  | rest (u : Nat) : Way R 0 u u
  | step {length u v w : Nat} (way : Way R length u v) (last : R v w) : Way R (length + 1) u w

/-- Where every step rises, and every height is gained in steps of one, it is the longest way. -/
theorem isGreatest_way {R : Nat → Nat → Prop} {height : Nat → Nat}
    (rises : ∀ u v, R u v → height u + 1 ≤ height v)
    (gained : ∀ v, height v = 0 ∨ ∃ u, R u v ∧ height v = height u + 1) (v : Nat) :
    IsGreatest {length | ∃ u, Way R length u v} (height v) := by
  constructor
  · generalize h : height v = top
    induction top generalizing v with
    | zero => exact ⟨v, .rest v⟩
    | succ top ih =>
      obtain none | ⟨u, last, same⟩ := gained v
      · omega
      · obtain ⟨w, way⟩ := ih u (by omega)
        exact ⟨w, way.step last⟩
  · rintro length ⟨u, way⟩
    have climbs : height u + length ≤ height v := by
      induction way with
      | rest => exact Nat.le_refl _
      | step _ last ih =>
        have := rises _ _ last
        omega
    omega

/-! ### Between two arcs -/

variable {g : Adjacency} {back : List Nat}

/-- The layer in which a node has been put so far. -/
def Layering.layer (l : Layering) (node : Nat) : Nat := l.layers.getD node 0

/-- How many arcs a node waits for. -/
def Layering.wait (l : Layering) (node : Nat) : Nat := l.waiting.getD node 0

/-- The arcs not yet followed: those `todo` of one node, and those of the nodes `rest`. -/
def outstanding (g : Adjacency) (back : List Nat) (node : Nat) (todo : List Arc)
    (rest : List Nat) : List (Nat × Arc) :=
  todo.map (node, ·) ++ rest.flatMap fun u => (forward g back u).map (u, ·)

/-- Whether an arc leads to a node. -/
def leadsTo (node : Nat) (link : Nat × Arc) : Bool := link.2.target == node

/--
The nodes that are ready, while the arcs `todo` of `node` and the nodes `rest` are left:
a node waits for the outstanding arcs to it, and is ready when there are none.
-/
structure Queued (g : Adjacency) (back : List Nat) (node : Nat) (todo : List Arc)
    (rest : List Nat) (l : Layering) : Prop where
  size : l.waiting.length = g.length
  nodup : rest.Nodup
  inside : ∀ u ∈ rest, u < g.length
  /-- The node whose arcs are followed has been taken. -/
  taken : todo ≠ [] → node ∉ rest
  wait : ∀ v < g.length, l.wait v = (outstanding g back node todo rest).countP (leadsTo v)
  /-- No arc to a node that has been taken is outstanding. -/
  settled : ∀ v < g.length, v ∉ rest → l.wait v = 0
  once : l.ready.Nodup
  ready : ∀ v, v ∈ l.ready ↔ v ∈ rest ∧ l.wait v = 0

/--
The layers, while the arcs `todo` of `node` and the nodes `rest` are left: they are right
as far as the arcs that have been followed go.
-/
structure Layered (g : Adjacency) (back : List Nat) (node : Nat) (todo : List Arc)
    (rest : List Nat) (l : Layering) : Prop where
  size : l.layers.length = g.length
  mine : ∀ arc ∈ todo, arc ∈ forward g back node
  /-- An arc that has been followed leads to a higher layer. -/
  rises : ∀ u arc, u ∉ rest → arc ∈ forward g back u →
    (u, arc) ∉ outstanding g back node todo rest → l.layer u + 1 ≤ l.layer arc.target
  /-- A layer other than the first is one above that of a node that has been taken. -/
  gained : ∀ v, l.layer v = 0 ∨
    ∃ u arc, u ∉ rest ∧ arc ∈ forward g back u ∧ arc.target = v ∧ l.layer v = l.layer u + 1

/-! ### Following an arc -/

theorem Layering.layer_follow (l : Layering) (layer : Nat) (arc : Arc)
    (inside : arc.target < l.layers.length) (v : Nat) :
    (l.follow layer arc).layer v
      = if v = arc.target then max (l.layer v) (layer + 1) else l.layer v := by
  rw [Layering.layer, Layering.layer, Layering.follow, List.getD_eq_getElem?_getD,
    List.getElem?_set]
  by_cases same : v = arc.target
  · subst same
    simp [inside]
  · simp [same, Ne.symm same]

theorem Layering.wait_follow (l : Layering) (layer : Nat) (arc : Arc)
    (inside : arc.target < l.waiting.length) (v : Nat) :
    (l.follow layer arc).wait v = if v = arc.target then l.wait v - 1 else l.wait v := by
  rw [Layering.wait, Layering.wait, Layering.follow, List.getD_eq_getElem?_getD,
    List.getElem?_set]
  by_cases same : v = arc.target
  · subst same
    simp [inside]
  · simp [same, Ne.symm same]

theorem Layering.ready_follow (l : Layering) (layer : Nat) (arc : Arc) :
    (l.follow layer arc).ready
      = if l.wait arc.target - 1 = 0 then l.ready ++ [arc.target] else l.ready := rfl

theorem outstanding_cons (g : Adjacency) (back : List Nat) (node : Nat) (arc : Arc)
    (todo : List Arc) (rest : List Nat) :
    outstanding g back node (arc :: todo) rest
      = (node, arc) :: outstanding g back node todo rest := rfl

section Follow

variable {node : Nat} {arc : Arc} {todo : List Arc} {rest : List Nat} {l : Layering}

/-- The target of an arc that is outstanding waits, and has not been taken. -/
theorem Queued.target_waits (q : Queued g back node (arc :: todo) rest l)
    (inside : arc.target < g.length) : 0 < l.wait arc.target ∧ arc.target ∈ rest := by
  have waits : 0 < l.wait arc.target := by
    rw [q.wait _ inside, outstanding_cons, List.countP_cons_of_pos (by simp [leadsTo])]
    exact Nat.succ_pos _
  refine ⟨waits, ?_⟩
  by_contra out
  rw [q.settled _ inside out] at waits
  exact Nat.lt_irrefl 0 waits

theorem Queued.follow (q : Queued g back node (arc :: todo) rest l)
    (inside : arc.target < g.length) (layer : Nat) :
    Queued g back node todo rest (l.follow layer arc) := by
  obtain ⟨waits, left⟩ := q.target_waits inside
  have wait := l.wait_follow layer arc (by rw [q.size]; exact inside)
  refine ⟨?_, q.nodup, q.inside, fun _ => q.taken (List.cons_ne_nil _ _), ?_, ?_, ?_, ?_⟩
  · simp [Layering.follow, q.size]
  · intro v bound
    have before := q.wait v bound
    rw [outstanding_cons, List.countP_cons] at before
    rw [wait, before]
    by_cases same : v = arc.target
    · simp [leadsTo, same]
    · simp [leadsTo, same, Ne.symm same]
  · intro v bound gone
    rw [wait, q.settled v bound gone]
    simp
  · rw [Layering.ready_follow]
    split
    · refine List.nodup_append.mpr ⟨q.once, List.nodup_singleton _, ?_⟩
      intro u mem v last same
      rw [same, List.mem_singleton.mp last, q.ready] at mem
      omega
    · exact q.once
  · intro v
    rw [Layering.ready_follow, wait]
    by_cases same : v = arc.target
    · subst same
      by_cases last : l.wait arc.target - 1 = 0
      · simp [last, left]
      · simp only [if_true, last, and_false, iff_false]
        intro mem
        exact absurd ((q.ready _).mp mem).2 (by omega)
    · rw [if_neg same, ← q.ready]
      split <;> simp [same]

/-- A node that has been taken keeps its layer. -/
theorem Queued.layer_follow (q : Queued g back node (arc :: todo) rest l)
    (h : Layered g back node (arc :: todo) rest l) (inside : arc.target < g.length)
    (layer : Nat) {u : Nat} (taken : u ∉ rest) : (l.follow layer arc).layer u = l.layer u := by
  have other : u ≠ arc.target := by
    intro same
    exact taken (same ▸ (q.target_waits inside).2)
  rw [Layering.layer_follow _ _ _ (by rw [h.size]; exact inside), if_neg other]

theorem Layered.follow (h : Layered g back node (arc :: todo) rest l)
    (q : Queued g back node (arc :: todo) rest l) (inside : arc.target < g.length) :
    Layered g back node todo rest (l.follow (l.layer node) arc) := by
  have layer := l.layer_follow (l.layer node) arc (by rw [h.size]; exact inside)
  have keeps : ∀ {u}, u ∉ rest → (l.follow (l.layer node) arc).layer u = l.layer u :=
    fun taken => q.layer_follow h inside (l.layer node) taken
  have taken : node ∉ rest := q.taken (List.cons_ne_nil _ _)
  refine ⟨?_, fun other mem => h.mine other (List.mem_cons_of_mem _ mem), ?_, ?_⟩
  · simp [Layering.follow, h.size]
  · intro u other gone mem followed
    rw [keeps gone]
    by_cases same : (u, other) = (node, arc)
    · obtain ⟨rfl, rfl⟩ := Prod.mk.inj same
      rw [layer, if_pos rfl]
      exact Nat.le_max_right _ _
    · have before : l.layer u + 1 ≤ l.layer other.target := by
        refine h.rises u other gone mem ?_
        rw [outstanding_cons]
        exact List.not_mem_cons_of_ne_of_not_mem same followed
      refine before.trans ?_
      rw [layer]
      split
      · exact Nat.le_max_left _ _
      · exact Nat.le_refl _
  · intro v
    have before : l.layer v = 0 ∨ ∃ u other, u ∉ rest ∧ other ∈ forward g back u ∧
        other.target = v ∧ l.layer v = (l.follow (l.layer node) arc).layer u + 1 := by
      refine (h.gained v).imp_right ?_
      rintro ⟨u, other, gone, mem, target, same⟩
      exact ⟨u, other, gone, mem, target, by rw [same, keeps gone]⟩
    rw [layer]
    by_cases same : v = arc.target
    · rw [if_pos same]
      rcases Nat.le_total (l.layer node + 1) (l.layer v) with low | high
      · rwa [Nat.max_eq_left low]
      · rw [Nat.max_eq_right high]
        refine Or.inr ⟨node, arc, taken, h.mine arc List.mem_cons_self, same.symm, ?_⟩
        rw [keeps taken]
    · rwa [if_neg same]

/-- All arcs of the node that has been taken are followed. -/
theorem follow_all (q : Queued g back node todo rest l) (h : Layered g back node todo rest l)
    (within : ∀ arc ∈ todo, arc.target < g.length) :
    Queued g back node [] rest (todo.foldl (Layering.follow (l.layer node)) l) ∧
      Layered g back node [] rest (todo.foldl (Layering.follow (l.layer node)) l) := by
  induction todo generalizing l with
  | nil => exact ⟨q, h⟩
  | cons arc todo ih =>
    have inside := within arc List.mem_cons_self
    have same := q.layer_follow h inside (l.layer node) (q.taken (List.cons_ne_nil _ _))
    have more := ih (q.follow inside (l.layer node)) (h.follow q inside) fun other mem =>
      within other (List.mem_cons_of_mem _ mem)
    rwa [same] at more

end Follow

/-! ### Taking a node -/

section Take

variable {node other : Nat} {rest ready : List Nat} {l : Layering}

/-- Which arcs are outstanding does not change when a node is taken. -/
theorem outstanding_take (g : Adjacency) (back : List Nat) (other : Nat) (mem : node ∈ rest) :
    (outstanding g back other [] rest).Perm
      (outstanding g back node (forward g back node) (rest.erase node)) :=
  (List.perm_cons_erase mem).flatMap_right _

theorem Queued.take (q : Queued g back other [] rest l) (next : l.ready = node :: ready) :
    node ∈ rest ∧
      Queued g back node (forward g back node) (rest.erase node) { l with ready } := by
  obtain ⟨left, free⟩ := (q.ready node).mp (by rw [next]; exact List.mem_cons_self)
  have same := outstanding_take g back other left
  have once := q.once
  rw [next, List.nodup_cons] at once
  refine ⟨left, q.size, q.nodup.erase node, fun u mem => q.inside u (List.mem_of_mem_erase mem),
    fun _ => q.nodup.not_mem_erase, fun v bound => (q.wait v bound).trans (same.countP_eq _), ?_,
    once.2, ?_⟩
  · intro v bound gone
    by_cases mine : v = node
    · exact mine ▸ free
    · exact q.settled v bound fun mem => gone ((List.mem_erase_of_ne mine).mpr mem)
  · intro v
    have before := q.ready v
    rw [next, List.mem_cons] at before
    by_cases mine : v = node
    · subst mine
      exact iff_of_false once.1 fun mem => q.nodup.not_mem_erase mem.1
    · rw [List.mem_erase_of_ne mine]
      exact (or_iff_right mine).symm.trans before

theorem Layered.take (h : Layered g back other [] rest l) (left : node ∈ rest) :
    Layered g back node (forward g back node) (rest.erase node) { l with ready } := by
  have same := outstanding_take g back other left
  refine ⟨h.size, fun _ mem => mem, ?_, ?_⟩
  · intro u arc gone mem followed
    have out : u ∉ rest := by
      intro there
      refine followed (List.mem_append.mpr ?_)
      by_cases mine : u = node
      · subst mine
        exact Or.inl (List.mem_map_of_mem mem)
      · exact absurd ((List.mem_erase_of_ne mine).mpr there) gone
    exact h.rises u arc out mem fun waits => followed (same.mem_iff.mp waits)
  · intro v
    refine (h.gained v).imp_right ?_
    rintro ⟨u, arc, out, found⟩
    exact ⟨u, arc, fun mem => out (List.mem_of_mem_erase mem), found⟩

end Take

/-! ### The beginning -/

/-- In the beginning every node is left, and waits for all arcs that lead to it. -/
theorem Queued.start (g : Adjacency) (back : List Nat) :
    Queued g back 0 [] (List.range g.length) (.start g back) := by
  refine ⟨by simp [Layering.start], List.nodup_range, fun u mem => List.mem_range.mp mem,
    fun some => absurd rfl some, ?_, fun v bound gone => absurd (List.mem_range.mpr bound) gone,
    List.nodup_range.filter _, fun v => by simp [Layering.start, Layering.wait]⟩
  intro v bound
  have arcs : (outstanding g back 0 [] (List.range g.length)).map Prod.snd
      = forwardArcs g back := by
    simp [outstanding, forwardArcs, List.map_flatMap, Function.comp_def]
  have counted : (Layering.start g back).wait v = indegree (forwardArcs g back) v := by
    simp [Layering.wait, Layering.start, List.getD_eq_getElem?_getD, bound]
  rw [counted, ← arcs, indegree, List.countP_map]
  rfl

theorem Layered.start (g : Adjacency) (back : List Nat) :
    Layered g back 0 [] (List.range g.length) (.start g back) := by
  refine ⟨by simp [Layering.start], nofun, ?_, ?_⟩
  · intro u arc gone mem _
    refine absurd (List.mem_range.mpr ?_) gone
    exact lt_length_of_mem_arcsOf (mem_forward.mp mem).1
  · intro v
    refine Or.inl ?_
    rw [Layering.layer, Layering.start, List.getD_eq_getElem?_getD, List.getElem?_map]
    cases g[v]? <;> rfl

/-! ### All nodes are taken -/

section Whole

variable {node : Nat} {rest : List Nat} {l : Layering}

/-- As long as a node is left, one is ready. -/
theorem Queued.exists_ready (q : Queued g back node [] rest l) {rank : Nat → Nat}
    (rising : ∀ u v, Leads g back u v → rank u < rank v) (none : l.ready = []) : rest = [] := by
  -- By induction on its rank no node is left: it would wait for one of a lower rank.
  have gone : ∀ (k v : Nat), rank v = k → v ∉ rest := by
    intro k
    induction k using Nat.strong_induction_on with
    | _ k ih =>
      intro v same mem
      have waits : l.wait v ≠ 0 := by
        intro free
        have ready := (q.ready v).mpr ⟨mem, free⟩
        rw [none] at ready
        exact List.not_mem_nil ready
      rw [q.wait v (q.inside v mem), Ne, List.countP_eq_zero] at waits
      push Not at waits
      obtain ⟨link, waiting, leads⟩ := waits
      obtain ⟨u, left, link⟩ := List.mem_flatMap.mp waiting
      obtain ⟨arc, here, rfl⟩ := List.mem_map.mp link
      have lower := rising u v ⟨arc, here, beq_iff_eq.mp leads⟩
      exact ih (rank u) (same ▸ lower) u rfl left
  exact List.eq_nil_iff_forall_not_mem.mpr fun v => gone (rank v) v rfl

/-- A run takes all nodes that are left, if it may take as many as there are. -/
theorem run_takes_all (q : Queued g back node [] rest l) (h : Layered g back node [] rest l)
    (inside : ∀ u, ∀ arc ∈ arcsOf g u, arc.target < g.length) {rank : Nat → Nat}
    (rising : ∀ u v, Leads g back u v → rank u < rank v) {fuel : Nat}
    (enough : rest.length ≤ fuel) :
    ∃ last, Queued g back last [] [] (l.run g back fuel) ∧
      Layered g back last [] [] (l.run g back fuel) := by
  induction fuel generalizing node rest l with
  | zero =>
    obtain rfl := List.eq_nil_of_length_eq_zero (Nat.le_zero.mp enough)
    exact ⟨node, q, h⟩
  | succ fuel ih =>
    cases ready : l.ready with
    | nil =>
      obtain rfl := q.exists_ready rising ready
      have ended : l.run g back (fuel + 1) = l := by simp [Layering.run, Layering.step, ready]
      rw [ended]
      exact ⟨node, q, h⟩
    | cons next ready' =>
      obtain ⟨left, taken⟩ := q.take ready
      obtain ⟨q', h'⟩ := follow_all taken (h.take left) fun arc mem =>
        inside next arc (mem_forward.mp mem).1
      have goes : l.run g back (fuel + 1)
          = ((forward g back next).foldl (Layering.follow (l.layer next))
              { l with ready := ready' }).run g back fuel := by
        simp [Layering.run, Layering.step, ready, Layering.layer]
      rw [goes]
      refine ih q' h' ?_
      have fewer := List.length_erase_of_mem left
      omega

end Whole

/-- There is a layer for every node. -/
theorem layers_length (g : Adjacency) (back : List Nat) : (layers g back).length = g.length := by
  have follow : ∀ (arcs : List Arc) (layer : Nat) (l : Layering),
      (arcs.foldl (Layering.follow layer) l).layers.length = l.layers.length := by
    intro arcs layer
    induction arcs with
    | nil => exact fun _ => rfl
    | cons arc arcs ih =>
      intro l
      rw [List.foldl_cons, ih]
      simp [Layering.follow]
  have run : ∀ (fuel : Nat) (l : Layering),
      (l.run g back fuel).layers.length = l.layers.length := by
    intro fuel
    induction fuel with
    | zero => exact fun _ => rfl
    | succ fuel ih =>
      intro l
      cases ready : l.ready with
      | nil => simp [Layering.run, Layering.step, ready]
      | cons next ready' => simp [Layering.run, Layering.step, ready, ih, follow]
  rw [layers, run]
  simp [Layering.start]

/--
**The layer of a node is the greatest length of a way to it**, if the arcs that count
lead upwards in some ranking of the nodes.
-/
theorem layers_longest (inside : ∀ u, ∀ arc ∈ arcsOf g u, arc.target < g.length)
    {rank : Nat → Nat} (rising : ∀ u v, Leads g back u v → rank u < rank v) :
    (∀ u v, Leads g back u v → (layers g back).getD u 0 < (layers g back).getD v 0) ∧
      ∀ v, IsGreatest {length | ∃ u, Way (Leads g back) length u v} ((layers g back).getD v 0) := by
  obtain ⟨last, -, h⟩ := run_takes_all (Queued.start g back) (Layered.start g back) inside rising
    (Nat.le_of_eq List.length_range)
  have rises : ∀ u v, Leads g back u v →
      (layers g back).getD u 0 + 1 ≤ (layers g back).getD v 0 := by
    intro u v leads
    obtain ⟨arc, mem, rfl⟩ := leads
    exact h.rises u arc List.not_mem_nil mem List.not_mem_nil
  refine ⟨rises, isGreatest_way rises ?_⟩
  intro v
  refine (h.gained v).imp_right ?_
  rintro ⟨u, arc, -, mem, target, same⟩
  exact ⟨u, ⟨arc, mem, target⟩, same⟩

end Draftsman.Graph
