/-
What the search for edges that close a cycle finds.

An arc that has been followed is *kept* unless its edge has been set aside.  Two facts
carry everything.  Every arc that has been kept leads forward in the line of the search,
so at the end, when the line holds all nodes, the arcs that have been kept have no cycle.
And each node of the stack is joined to the one above it by such an arc, so an arc that
is set aside, which leads to a node of the stack, leads back to where the search came
from.
-/
import Mathlib.Data.List.Chain
import Mathlib.Logic.Relation
import Draftsman.Proofs.Diagram.Search

namespace Draftsman.Graph

variable {g : Adjacency} {followed : List (Nat × Arc)} {left : List Nat} {s : Search}
variable {node : Nat} {arc : Arc} {arcs : List Arc} {below : List Frame}

/-! ### The arcs that have been kept -/

/-- Whether an arc from one node to another has been followed and not set aside. -/
def Kept (followed : List (Nat × Arc)) (back : List Nat) (u v : Nat) : Prop :=
  ∃ arc, (u, arc) ∈ followed ∧ arc.edge ∉ back ∧ arc.target = v

theorem Kept.cons {back : List Nat} {u v : Nat} (kept : Kept followed back u v)
    (link : Nat × Arc) : Kept (link :: followed) back u v := by
  obtain ⟨arc, mem, ahead, target⟩ := kept
  exact ⟨arc, List.mem_cons_of_mem _ mem, ahead, target⟩

/-- What has been kept stays kept when another arc is set aside. -/
theorem Kept.close {back : List Nat} {u v node : Nat} {arc : Arc}
    (kept : Kept followed back u v) (new : ∀ link ∈ followed, link.2.edge ≠ arc.edge) :
    Kept ((node, arc) :: followed) (arc.edge :: back) u v := by
  obtain ⟨other, mem, ahead, target⟩ := kept
  exact ⟨other, List.mem_cons_of_mem _ mem,
    List.not_mem_cons_of_ne_of_not_mem (new _ mem) ahead, target⟩

/-- Only arcs that have been followed have been set aside. -/
theorem Traversal.back_followed (t : Traversal g followed left s) :
    ∀ edge ∈ s.back, ∃ link ∈ followed, link.2.edge = edge := by
  have further : ∀ {followed : List (Nat × Arc)} {back : List Nat} {link : Nat × Arc},
      (∀ edge ∈ back, ∃ link ∈ followed, link.2.edge = edge) →
      ∀ edge ∈ back, ∃ other ∈ link :: followed, other.2.edge = edge := by
    intro followed back link ih edge mem
    obtain ⟨other, mem, same⟩ := ih edge mem
    exact ⟨other, List.mem_cons_of_mem _ mem, same⟩
  induction t with
  | start => exact nofun
  | close _ _ _ ih =>
    intro edge mem
    rcases List.mem_cons.mp mem with rfl | mem
    · exact ⟨_, List.mem_cons_self, rfl⟩
    · exact further ih edge mem
  | enter _ _ _ ih => exact further ih
  | pass _ _ _ ih => exact further ih
  | leave _ _ ih => exact ih
  | begin _ _ _ _ ih => exact ih
  | skip _ _ _ _ ih => exact ih

/-- The arc that is followed next has not been set aside. -/
theorem Traversal.not_back (t : Traversal g followed left s) (proper : Proper g)
    (top : s.stack = ⟨node, arc :: arcs⟩ :: below) : arc.edge ∉ s.back := by
  intro back
  obtain ⟨link, mem, same⟩ := t.back_followed _ back
  exact t.new_edge proper top link mem same

/-- **Every arc that has been kept leads forward in the line.** -/
theorem Traversal.kept_forward (t : Traversal g followed left s)
    (proper : Proper g) {u v : Nat}
    (kept : Kept followed s.back u v) : [u, v].Sublist (s.line left) := by
  induction t with
  | start =>
    obtain ⟨arc, mem, -⟩ := kept
    cases mem
  | close _ top _ ih =>
    obtain ⟨other, mem, ahead, target⟩ := kept
    rw [List.mem_cons, not_or] at ahead
    rcases List.mem_cons.mp mem with same | mem
    · obtain ⟨rfl, rfl⟩ := Prod.mk.inj same
      exact absurd rfl ahead.1
    · rw [Search.line, top] at ih
      exact ih ⟨other, mem, ahead.2, target⟩
  | @enter followed left s node arc arcs below _ top _ ih =>
    obtain ⟨other, mem, ahead, rfl⟩ := kept
    rw [Search.line_of_stack (Search.enter_stack _ arc.target), List.map_cons, List.reverse_cons,
      List.append_assoc]
    rcases List.mem_cons.mp mem with same | mem
    · obtain ⟨rfl, rfl⟩ := Prod.mk.inj same
      refine List.Sublist.trans ?_ (List.sublist_append_right _ _)
      exact .cons_cons u (.cons_cons _ (List.nil_sublist left))
    · have before := ih ⟨other, mem, ahead, rfl⟩
      rw [Search.line_of_stack top] at before
      refine before.trans (List.Sublist.append_left ?_ _)
      exact .cons_cons node (List.sublist_cons_self _ left)
  | @pass followed left s node arc arcs below before top known ih =>
    obtain ⟨other, mem, ahead, rfl⟩ := kept
    rcases List.mem_cons.mp mem with same | mem
    · obtain ⟨rfl, rfl⟩ := Prod.mk.inj same
      have behind : other.target ∈ left :=
        (before.marked.finished _).mpr ⟨proper.inside u other (before.next_arc top), known⟩
      rw [Search.line_of_stack rfl]
      refine List.Sublist.trans ?_ (List.sublist_append_right _ _)
      exact .cons_cons u (List.singleton_sublist.mpr behind)
    · rw [Search.line, top] at ih
      exact ih ⟨other, mem, ahead, rfl⟩
  | leave _ top ih =>
    rw [Search.line_of_stack top] at ih
    exact ih kept
  | begin _ empty _ _ ih =>
    have before := ih kept
    rw [Search.line, empty] at before
    rw [Search.line, Search.enter_stack, empty]
    exact before.cons _
  | skip _ _ _ _ ih => exact ih kept

/-- Every node of the stack is joined to the one above it. -/
theorem Traversal.chain (t : Traversal g followed left s)
    (proper : Proper g) :
    (s.stack.map Frame.node).IsChain fun upper lower => Kept followed s.back lower upper := by
  induction t with
  | start => exact .nil
  | close before top _ ih =>
    rw [top] at ih
    exact ih.imp fun _ _ kept => kept.close (before.new_edge proper top)
  | @enter followed left s node arc arcs below before top _ ih =>
    have ahead := before.not_back proper top
    rw [top] at ih
    rw [Search.enter_stack, List.map_cons, List.map_cons]
    exact .cons_cons ⟨arc, List.mem_cons_self, ahead, rfl⟩ (ih.imp fun _ _ kept => kept.cons _)
  | pass _ top _ ih =>
    rw [top] at ih
    exact ih.imp fun _ _ kept => kept.cons _
  | leave _ top ih =>
    rw [top] at ih
    exact ih.of_cons
  | begin _ empty _ _ _ =>
    rw [Search.enter_stack, empty]
    exact .singleton _
  | skip _ _ _ _ ih => exact ih

/-- From every node of the stack arcs that have been kept lead to the top. -/
theorem Traversal.reaches_top (t : Traversal g followed left s) (proper : Proper g)
    (top : s.stack = ⟨node, arcs⟩ :: below) {u : Nat} (mem : u ∈ s.stack.map Frame.node) :
    Relation.ReflTransGen (Kept followed s.back) u node := by
  have chain := t.chain proper
  rw [top, List.map_cons] at chain mem
  let Reaches (upper lower : Nat) := Relation.ReflTransGen (Kept followed s.back) lower upper
  have : Trans Reaches Reaches Reaches := ⟨fun higher lower => lower.trans higher⟩
  have steps : (node :: below.map Frame.node).IsChain Reaches :=
    chain.imp fun _ _ kept => .single kept
  rcases List.mem_cons.mp mem with rfl | mem
  · exact .refl
  · exact steps.rel_cons mem

/-- **Every arc that has been set aside closes a cycle of arcs that have been kept.** -/
theorem Traversal.closes (t : Traversal g followed left s)
    (proper : Proper g) {u : Nat} {arc : Arc}
    (mem : (u, arc) ∈ followed) (back : arc.edge ∈ s.back) :
    Relation.ReflTransGen (Kept followed s.back) arc.target u := by
  induction t with
  | start => cases mem
  | @close followed left s node next arcs below before top known ih =>
    have new := before.new_edge proper top
    have grow : ∀ {v w : Nat}, Relation.ReflTransGen (Kept followed s.back) v w →
        Relation.ReflTransGen (Kept ((node, next) :: followed) (next.edge :: s.back)) v w :=
      .mono (fun _ _ kept => kept.close new) _ _
    rcases List.mem_cons.mp mem with same | mem
    · obtain ⟨rfl, rfl⟩ := Prod.mk.inj same
      exact grow (before.reaches_top proper top ((before.marked.active _).mp known))
    · exact grow (ih mem ((List.mem_cons.mp back).resolve_left (new _ mem)))
  | enter before top _ ih =>
    rcases List.mem_cons.mp mem with same | mem
    · obtain ⟨rfl, rfl⟩ := Prod.mk.inj same
      exact absurd back (before.not_back proper top)
    · exact .mono (fun _ _ kept => kept.cons _) _ _ (ih mem back)
  | pass before top _ ih =>
    rcases List.mem_cons.mp mem with same | mem
    · obtain ⟨rfl, rfl⟩ := Prod.mk.inj same
      exact absurd back (before.not_back proper top)
    · exact .mono (fun _ _ kept => kept.cons _) _ _ (ih mem back)
  | leave _ _ ih => exact ih mem back
  | begin _ _ _ _ ih => exact ih mem back
  | skip _ _ _ _ ih => exact ih mem back

/-! ### What is found -/

/-- Whether an arc from one node to another is not among the edges `back`. -/
def Leads (g : Adjacency) (back : List Nat) (u v : Nat) : Prop :=
  ∃ arc ∈ forward g back u, arc.target = v

theorem mem_forward {back : List Nat} {node : Nat} {arc : Arc} :
    arc ∈ forward g back node ↔ arc ∈ arcsOf g node ∧ arc.edge ∉ back := by
  simp [forward]

theorem idxOf_lt_of_sublist {u v : Nat} {order : List Nat} (nodup : order.Nodup)
    (before : [u, v].Sublist order) : order.idxOf u < order.idxOf v := by
  induction order with
  | nil => cases before
  | cons node order ih =>
    obtain ⟨new, nodup⟩ := List.nodup_cons.mp nodup
    cases before with
    | cons _ before =>
      have first : node ≠ u := fun same => new (same ▸ before.subset List.mem_cons_self)
      have second : node ≠ v := fun same =>
        new (same ▸ before.subset (List.mem_cons_of_mem _ List.mem_cons_self))
      rw [List.idxOf_cons_ne _ first, List.idxOf_cons_ne _ second]
      exact Nat.succ_lt_succ (ih nodup before)
    | cons_cons _ before =>
      have other : u ≠ v := fun same => new (same ▸ before.subset List.mem_cons_self)
      rw [List.idxOf_cons_self, List.idxOf_cons_ne _ other]
      exact Nat.succ_pos _

/-- The nodes can be ranked so that every arc that is not set aside leads upwards. -/
theorem exists_rank (proper : Proper g) :
    ∃ rank : Nat → Nat, ∀ u v, Leads g (backEdges g) u v → rank u < rank v := by
  obtain ⟨followed, left, t, stack, -, all⟩ := Search.whole_traversal proper
  refine ⟨left.idxOf, ?_⟩
  rintro u v ⟨arc, mem, target⟩
  obtain ⟨mem, ahead⟩ := mem_forward.mp mem
  have kept : Kept followed (Search.whole g).back u v :=
    ⟨arc, (t.followed_iff all u arc).mpr mem, ahead, target⟩
  have forward := t.kept_forward proper kept
  rw [Search.line, stack] at forward
  exact idxOf_lt_of_sublist t.marked.left_subset.1 forward

/-- Every arc that is set aside closes a cycle of arcs that are not. -/
theorem backEdges_close (proper : Proper g) {u : Nat} {arc : Arc} (mem : arc ∈ arcsOf g u)
    (back : arc.edge ∈ backEdges g) :
    Relation.ReflTransGen (Leads g (backEdges g)) arc.target u := by
  obtain ⟨followed, left, t, -, -, all⟩ := Search.whole_traversal proper
  have way := t.closes proper ((t.followed_iff all u arc).mpr mem) back
  refine .mono ?_ _ _ way
  rintro v w ⟨other, mem, ahead, target⟩
  exact ⟨other, mem_forward.mpr ⟨(t.followed_iff all v other).mp mem, ahead⟩, target⟩

end Draftsman.Graph
