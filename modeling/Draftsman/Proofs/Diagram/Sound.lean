/-
Sound diagrams, and the graphs they are.

`Diagram.check` accepts a diagram exactly if it is `Sound`.  Of such a diagram every id
names one position, so that each edge joins two positions, and the arcs of its graph are
its edges: none is lost, none is there twice, and none leads outside.
-/
import Mathlib.Data.List.Nodup
import Draftsman.Diagram.Layout
import Draftsman.Proofs.Diagram.Search

namespace Draftsman.Diagram

open Draftsman.Text (blankString)
open Draftsman.Graph (Arc arcsOf)

/-! ### Soundness -/

/-- Diagrams with nodes, whose ids are neither blank nor the same, and edges between them. -/
structure Sound (d : Diagram) : Prop where
  inhabited : d.nodes ≠ []
  named : ∀ id ∈ d.ids, blankString id = false
  distinct : d.ids.Nodup
  joined : ∀ e ∈ d.edges, e.source ∈ d.ids ∧ e.target ∈ d.ids

theorem checkNodes_eq_ok_iff (seen : List String) (nodes : List Node) :
    checkNodes seen nodes = .ok () ↔
      (∀ id ∈ nodes.map Node.id, blankString id = false ∧ id ∉ seen) ∧
        (nodes.map Node.id).Nodup := by
  induction nodes generalizing seen with
  | nil => simp [checkNodes]
  | cons node rest ih =>
    rw [checkNodes]
    by_cases blank : blankString node.id = true
    · simp [blank]
    · by_cases old : node.id ∈ seen
      · simp [blank, old]
      · rw [if_neg blank, if_neg old, ih, List.map_cons, List.forall_mem_cons, List.nodup_cons]
        simp only [List.mem_cons, not_or]
        constructor
        · rintro ⟨others, nodup⟩
          refine ⟨⟨⟨by simpa using blank, old⟩, fun id mem => ?_⟩, fun mem => ?_, nodup⟩
          · exact ⟨(others id mem).1, (others id mem).2.2⟩
          · exact (others _ mem).2.1 rfl
        · rintro ⟨⟨-, others⟩, new, nodup⟩
          refine ⟨fun id mem => ⟨(others id mem).1, ?_, (others id mem).2⟩, nodup⟩
          rintro rfl
          exact new mem

theorem checkEdge_eq_ok_iff (ids : List String) (e : Edge) :
    checkEdge ids e = .ok () ↔ e.source ∈ ids ∧ e.target ∈ ids := by
  unfold checkEdge
  split
  · rename_i missing found
    refine iff_of_false nofun fun there => ?_
    have absent : missing ∉ ids := by simpa using List.find?_some found
    have mem := List.mem_of_find?_eq_some found
    rw [Edge.ends, List.mem_cons, List.mem_singleton] at mem
    rcases mem with rfl | rfl
    · exact absent there.1
    · exact absent there.2
  · rename_i none
    refine iff_of_true rfl ?_
    simpa [Edge.ends] using none

theorem forM_eq_ok_iff {α ε : Type} (f : α → Except ε Unit) (xs : List α) :
    xs.forM f = .ok () ↔ ∀ x ∈ xs, f x = .ok () := by
  induction xs with
  | nil => exact iff_of_true rfl nofun
  | cons x xs ih =>
    rw [List.forall_mem_cons, ← ih]
    change (f x >>= fun _ => xs.forM f) = .ok () ↔ _
    cases f x with
    | error fault => exact iff_of_false nofun fun both => nomatch both.1
    | ok _ => exact (and_iff_right rfl).symm

/-- A diagram passes its check if and only if it is sound. -/
theorem check_eq_ok_iff (d : Diagram) : d.check = .ok () ↔ d.Sound := by
  have nodes := checkNodes_eq_ok_iff [] d.nodes
  have edges := forM_eq_ok_iff (checkEdge d.ids) d.edges
  simp only [checkEdge_eq_ok_iff] at edges
  cases h : d.nodes with
  | nil =>
    refine iff_of_false ?_ fun sound => sound.inhabited h
    rw [check, h]
    exact nofun
  | cons node rest =>
    have parts : d.check = .ok () ↔
        checkNodes [] d.nodes = .ok () ∧ d.edges.forM (checkEdge d.ids) = .ok () := by
      rw [check, h]
      cases checkNodes [] (node :: rest) with
      | error fault => exact iff_of_false nofun fun both => nomatch both.1
      | ok _ => exact (and_iff_right rfl).symm
    rw [parts, nodes, edges]
    constructor
    · rintro ⟨⟨named, distinct⟩, joined⟩
      exact ⟨by rw [h]; exact nofun, fun id mem => (named id mem).1, distinct, joined⟩
    · rintro ⟨-, named, distinct, joined⟩
      exact ⟨⟨fun id mem => ⟨named id mem, nofun⟩, distinct⟩, joined⟩

/-! ### Positions -/

theorem getElem?_of_lastIndex? {id : String} {nodes : List Node} {i : Nat}
    (h : lastIndex? id nodes = some i) : (nodes.map Node.id)[i]? = some id := by
  induction nodes generalizing i with
  | nil => cases h
  | cons node rest ih =>
    rw [lastIndex?] at h
    split at h
    · rename_i index found
      obtain rfl := Option.some.inj h
      exact ih found
    · split at h
      · rename_i same
        obtain rfl := Option.some.inj h
        exact congrArg some same
      · cases h

theorem lastIndex?_isSome {id : String} {nodes : List Node} (h : id ∈ nodes.map Node.id) :
    ∃ i, lastIndex? id nodes = some i := by
  induction nodes with
  | nil => cases h
  | cons node rest ih =>
    rw [lastIndex?]
    cases later : lastIndex? id rest with
    | some i => exact ⟨i + 1, rfl⟩
    | none =>
      rcases List.mem_cons.mp h with same | mem
      · exact ⟨0, if_pos same.symm⟩
      · obtain ⟨i, found⟩ := ih mem
        rw [later] at found
        cases found

/-- Where no two ids are the same, the last position of an id is its only one. -/
theorem lastIndex?_eq_some_iff {d : Diagram} (distinct : d.ids.Nodup) (id : String) (i : Nat) :
    lastIndex? id d.nodes = some i ↔ d.ids[i]? = some id := by
  refine ⟨getElem?_of_lastIndex?, fun there => ?_⟩
  obtain ⟨j, last⟩ := lastIndex?_isSome (List.mem_of_getElem? there)
  obtain ⟨bound, -⟩ := List.getElem?_eq_some_iff.mp there
  rw [last, (List.getElem?_inj bound distinct).mp (there.trans (getElem?_of_lastIndex? last).symm)]

/-! ### Edges -/

/-- Whether the edge with a number leads from the node at one position to that at another. -/
def Joins (d : Diagram) (edge u v : Nat) : Prop :=
  ∃ e, d.edges[edge]? = some e ∧ d.ids[u]? = some e.source ∧ d.ids[v]? = some e.target

theorem link?_eq_some_iff {d : Diagram} {edge : Edge × Nat} {link : Link} :
    d.link? edge = some link ↔ lastIndex? edge.1.source d.nodes = some link.source ∧
      lastIndex? edge.1.target d.nodes = some link.arc.target ∧ edge.2 = link.arc.edge := by
  obtain ⟨source, number, target⟩ := link
  simp only [link?, Option.bind_eq_bind, Option.bind_eq_some_iff, Option.some.injEq]
  constructor
  · rintro ⟨_, hs, _, ht, same⟩
    cases same
    exact ⟨hs, ht, rfl⟩
  · rintro ⟨hs, ht, rfl⟩
    exact ⟨source, hs, target, ht, rfl⟩

theorem mem_links_iff {d : Diagram} (distinct : d.ids.Nodup) (u : Nat) (arc : Arc) :
    ⟨u, arc⟩ ∈ d.links ↔ d.Joins arc.edge u arc.target := by
  simp only [links, List.mem_filterMap, Prod.exists, List.mem_zipIdx_iff_getElem?, Joins,
    link?_eq_some_iff, lastIndex?_eq_some_iff distinct]
  constructor
  · rintro ⟨e, number, there, hs, ht, rfl⟩
    exact ⟨e, there, hs, ht⟩
  · rintro ⟨e, there, hs, ht⟩
    exact ⟨e, arc.edge, there, hs, ht, rfl⟩

theorem adjacency_length (d : Diagram) : d.adjacency.length = d.nodes.length := by
  simp [adjacency]

/-- **The arcs of the graph are the edges of the diagram.** -/
theorem mem_arcsOf_adjacency {d : Diagram} (distinct : d.ids.Nodup) (u : Nat) (arc : Arc) :
    arc ∈ arcsOf d.adjacency u ↔ d.Joins arc.edge u arc.target := by
  rw [← mem_links_iff distinct]
  by_cases inside : u < d.nodes.length
  · have arcs : arcsOf d.adjacency u
        = (d.links.filter fun link => link.source == u).map Link.arc := by
      simp [arcsOf, adjacency, List.getD_eq_getElem?_getD, inside]
    rw [arcs, List.mem_map]
    constructor
    · rintro ⟨⟨source, arc⟩, mem, rfl⟩
      obtain ⟨mem, same⟩ := List.mem_filter.mp mem
      exact beq_iff_eq.mp same ▸ mem
    · intro mem
      exact ⟨⟨u, arc⟩, List.mem_filter.mpr ⟨mem, beq_self_eq_true u⟩, rfl⟩
  · refine iff_of_false (fun mem => inside ?_) fun mem => inside ?_
    · rw [← adjacency_length]
      exact Graph.lt_length_of_mem_arcsOf mem
    · obtain ⟨e, -, source, -⟩ := (mem_links_iff distinct u arc).mp mem
      obtain ⟨bound, -⟩ := List.getElem?_eq_some_iff.mp source
      simpa [ids] using bound

theorem links_edges_nodup (d : Diagram) : (d.links.map fun link => link.arc.edge).Nodup := by
  have numbers : ∀ edges : List (Edge × Nat),
      ((edges.filterMap d.link?).map fun link => link.arc.edge).Sublist (edges.map Prod.snd) := by
    intro edges
    induction edges with
    | nil => exact .refl _
    | cons edge edges ih =>
      cases found : d.link? edge with
      | none =>
        rw [List.filterMap_cons_none found]
        exact ih.cons _
      | some link =>
        rw [List.filterMap_cons_some found, List.map_cons, List.map_cons,
          ← (link?_eq_some_iff.mp found).2.2]
        exact ih.cons_cons _
  refine (numbers _).nodup ?_
  rw [List.zipIdx_map_snd]
  exact List.nodup_range'

/-- No edge of the diagram is there twice in its graph. -/
theorem adjacency_edges_nodup (d : Diagram) : (d.adjacency.flatten.map Arc.edge).Nodup := by
  have edges : d.adjacency.flatten.map Arc.edge
      = (List.range d.nodes.length).flatMap fun node =>
        (d.links.filter fun link => link.source == node).map fun link => link.arc.edge := by
    simp [adjacency, List.flatMap_def, List.map_flatten, Function.comp_def]
  rw [edges, List.nodup_flatMap]
  refine ⟨fun node _ => d.links_edges_nodup.sublist (List.filter_sublist.map _), ?_⟩
  refine List.nodup_range.imp fun other edge here there => other ?_
  obtain ⟨link, mine, rfl⟩ := List.mem_map.mp here
  obtain ⟨link', yours, same⟩ := List.mem_map.mp there
  obtain ⟨mem, source⟩ := List.mem_filter.mp mine
  obtain ⟨mem', source'⟩ := List.mem_filter.mp yours
  obtain rfl := List.inj_on_of_nodup_map d.links_edges_nodup mem' mem same
  exact (beq_iff_eq.mp source).symm.trans (beq_iff_eq.mp source')

/-- The graph of a sound diagram is a proper one. -/
theorem Sound.proper {d : Diagram} (sound : d.Sound) : Graph.Proper d.adjacency where
  inside u arc mem := by
    obtain ⟨e, -, -, target⟩ := (mem_arcsOf_adjacency sound.distinct u arc).mp mem
    obtain ⟨bound, -⟩ := List.getElem?_eq_some_iff.mp target
    simpa [adjacency_length, ids] using bound
  distinct := d.adjacency_edges_nodup

end Draftsman.Diagram
