/-
The places of nodes in their layers.

A node is told from all others by its layer and its rank: those of one layer have their
ranks in the order in which they were declared, each one less than the number of nodes of
the layer.  No layer is beyond the number of layers, and none has more nodes than the
widest one.  Ranks can be given out one by one, with a table in which each layer has an
entry for the number of its nodes so far (`tally`).
-/
import Mathlib.Data.List.Induction
import Mathlib.Data.List.Nodup
import Mathlib.Order.Nat
import Draftsman.Diagram.Layout

namespace Draftsman.Diagram

/-! ### The greatest of some numbers -/

theorem le_foldl_max (ns : List Nat) (start : Nat) :
    start ≤ ns.foldl max start ∧ ∀ n ∈ ns, n ≤ ns.foldl max start := by
  induction ns generalizing start with
  | nil => exact ⟨Nat.le_refl start, nofun⟩
  | cons n ns ih =>
    obtain ⟨from_start, others⟩ := ih (max start n)
    refine ⟨(Nat.le_max_left start n).trans from_start, List.forall_mem_cons.mpr ⟨?_, others⟩⟩
    exact (Nat.le_max_right start n).trans from_start

theorem foldl_max_eq (ns : List Nat) (start : Nat) :
    ns.foldl max start = start ∨ ns.foldl max start ∈ ns := by
  induction ns generalizing start with
  | nil => exact Or.inl rfl
  | cons n ns ih =>
    rw [List.foldl_cons]
    rcases ih (max start n) with same | mem
    · rw [same]
      rcases Nat.le_total start n with le | ge
      · rw [Nat.max_eq_right le]
        exact Or.inr List.mem_cons_self
      · exact Or.inl (Nat.max_eq_left ge)
    · exact Or.inr (List.mem_cons_of_mem n mem)

theorem le_greatest {ns : List Nat} {n : Nat} (mem : n ∈ ns) : n ≤ greatest ns :=
  (le_foldl_max ns 0).2 n mem

/-! ### Layers and their sizes -/

variable {layers : List Nat} {layer i j : Nat}

theorem layerCount_eq (layers : List Nat) :
    layerCount layers = greatest (layers.map (· + 1)) := by
  rw [layerCount, greatest, List.foldl_map]

theorem lt_layerCount (mem : layer ∈ layers) : layer < layerCount layers := by
  rw [layerCount_eq]
  exact le_greatest (List.mem_map.mpr ⟨layer, mem, rfl⟩)

/-- No number of layers is counted beyond the highest one. -/
theorem exists_le_of_lt_layerCount (inside : layer < layerCount layers) :
    ∃ top ∈ layers, layer ≤ top := by
  rw [layerCount_eq] at inside
  rcases foldl_max_eq (layers.map (· + 1)) 0 with none | mem
  · rw [greatest, none] at inside
    exact absurd inside (Nat.not_lt_zero layer)
  · obtain ⟨top, mem, same⟩ := List.mem_map.mp mem
    refine ⟨top, mem, ?_⟩
    rw [greatest, ← same] at inside
    omega

/-- No layer has more nodes than the widest one. -/
theorem count_le_widest (mem : layer ∈ layers) :
    layers.count layer ≤ greatest (layerSizes layers) := by
  refine le_greatest (List.mem_map.mpr ⟨layer, ?_, rfl⟩)
  exact List.mem_range.mpr (lt_layerCount mem)

/-! ### Ranks -/

/-- The rank that the node at a position has in a layer. -/
def rankAt (layers : List Nat) (i layer : Nat) : Nat := (layers.take i).count layer

theorem getElem?_ranks (layers : List Nat) (i : Nat) :
    (ranks layers)[i]? = layers[i]?.map (rankAt layers i) := by
  rw [ranks, List.getElem?_map, List.getElem?_zipIdx, Option.map_map, Nat.zero_add]
  rfl

/-- A node behind all others has as many before it as its layer has. -/
theorem ranks_concat (layers : List Nat) (layer : Nat) :
    ranks (layers ++ [layer]) = ranks layers ++ [layers.count layer] := by
  have before : ∀ x ∈ layers.zipIdx,
      ((layers ++ [layer]).take x.2).count x.1 = (layers.take x.2).count x.1 := by
    rintro ⟨other, i⟩ mem
    have inside := List.snd_lt_of_mem_zipIdx mem
    rw [List.take_append_of_le_length (by simp at inside; omega)]
  rw [ranks, List.zipIdx_append, List.map_append, List.map_congr_left before, ← ranks]
  simp

theorem zip_ranks_concat (layers : List Nat) (layer : Nat) :
    (layers ++ [layer]).zip (ranks (layers ++ [layer]))
      = layers.zip (ranks layers) ++ [(layer, layers.count layer)] := by
  rw [ranks_concat, List.zip_append (by simp [ranks])]
  rfl

/-- **The ranks of a layer are the numbers from zero on**, in the order of its nodes. -/
theorem ranks_of_layer (layers : List Nat) (layer : Nat) :
    ((layers.zip (ranks layers)).filter fun x => x.1 == layer).map Prod.snd
      = List.range (layers.count layer) := by
  induction layers using List.reverseRecOn with
  | nil => rfl
  | append_singleton layers last ih =>
    rw [zip_ranks_concat, List.filter_append, List.map_append, ih, List.count_append]
    by_cases same : last = layer
    · simp [same, List.range_succ]
    · simp [same]

/-- A rank that is less than the number of nodes in a layer is that of one of them. -/
theorem exists_rankAt {rank : Nat} (less : rank < layers.count layer) :
    ∃ i, layers[i]? = some layer ∧ rankAt layers i layer = rank := by
  rw [← List.mem_range, ← ranks_of_layer, List.mem_map] at less
  obtain ⟨⟨other, given⟩, kept, rfl⟩ := less
  obtain ⟨mem, same⟩ := List.mem_filter.mp kept
  obtain rfl := beq_iff_eq.mp same
  obtain ⟨i, place⟩ := List.mem_iff_getElem?.mp mem
  obtain ⟨here, rank⟩ := List.getElem?_zip_eq_some.mp place
  rw [getElem?_ranks, here, Option.map_some] at rank
  exact ⟨i, here, Option.some.inj rank⟩

/-- No two nodes have the same layer and rank. -/
theorem zip_ranks_nodup (layers : List Nat) : (layers.zip (ranks layers)).Nodup := by
  induction layers using List.reverseRecOn with
  | nil => exact List.nodup_nil
  | append_singleton layers last ih =>
    rw [zip_ranks_concat]
    refine ih.append (List.nodup_singleton _) (List.disjoint_singleton.mpr fun mem => ?_)
    -- The rank of the last node is too high to have been given in its layer before.
    have given : layers.count last ∈ List.range (layers.count last) := by
      rw [← ranks_of_layer]
      exact List.mem_map.mpr ⟨_, List.mem_filter.mpr ⟨mem, beq_self_eq_true last⟩, rfl⟩
    exact absurd (List.mem_range.mp given) (Nat.lt_irrefl _)

/-- Nodes of one layer have their ranks in their order. -/
theorem rankAt_lt (here : layers[i]? = some layer) (before : i < j) :
    rankAt layers i layer < rankAt layers j layer := by
  have next : (layers.take (i + 1)).count layer = (layers.take i).count layer + 1 := by
    rw [List.take_add_one, here, Option.toList_some, List.count_append, List.count_singleton_self]
  have covered : (layers.take (i + 1)).Sublist (layers.take j) :=
    (List.take_prefix_take_left before).sublist
  exact Nat.lt_of_lt_of_le (Nat.lt_of_lt_of_eq (Nat.lt_succ_self _) next.symm)
    (covered.count_le layer)

/-- Two nodes of one layer have different ranks. -/
theorem rankAt_ne (here : layers[i]? = some layer) (there : layers[j]? = some layer)
    (other : i ≠ j) : rankAt layers i layer ≠ rankAt layers j layer := by
  rcases Nat.lt_or_gt_of_ne other with before | behind
  · exact (rankAt_lt here before).ne
  · exact (rankAt_lt there behind).ne'

/-- A rank is less than the number of nodes in the layer. -/
theorem rankAt_lt_count (here : layers[i]? = some layer) :
    rankAt layers i layer < layers.count layer := by
  have inside : i < layers.length := (List.getElem?_eq_some_iff.mp here).1
  have whole : rankAt layers layers.length layer = layers.count layer := by
    rw [rankAt, List.take_length]
  exact whole ▸ rankAt_lt here inside

/-! ### Giving out ranks one by one -/

/-- The ranks given so far, and how many nodes each layer has got. -/
structure Tally where
  ranks : List Nat
  sizes : List Nat
  deriving DecidableEq, Repr

/-- Gives the next node of a layer its rank, if there is an entry for the layer. -/
def Tally.next (t : Tally) (layer : Nat) : Option Tally :=
  t.sizes[layer]?.map fun size => ⟨t.ranks ++ [size], t.sizes.set layer (size + 1)⟩

/-- Gives all nodes their ranks, with an entry for each of `count` layers. -/
def tally (count : Nat) (layers : List Nat) : Option Tally :=
  layers.foldlM Tally.next ⟨[], List.replicate count 0⟩

/-- The sizes of layers when one more node has been put into one of them. -/
theorem set_sizes (count : Nat) (layers : List Nat) (layer : Nat) :
    ((List.range count).map layers.count).set layer (layers.count layer + 1)
      = (List.range count).map (layers ++ [layer]).count := by
  refine List.ext_getElem (by simp) fun i inside _ => ?_
  rw [List.getElem_set]
  by_cases same : layer = i
  · simp [same]
  · simp [same]

/-- **Every layer has its entry**, and what is counted are the ranks. -/
theorem tally_eq {count : Nat} (inside : ∀ layer ∈ layers, layer < count) :
    tally count layers = some ⟨ranks layers, (List.range count).map layers.count⟩ := by
  induction layers using List.reverseRecOn with
  | nil => simp [tally, ranks, List.map_const']
  | append_singleton layers last ih =>
    rw [List.forall_mem_append, List.forall_mem_singleton] at inside
    have entry : ((List.range count).map layers.count)[last]? = some (layers.count last) := by
      simp [inside.2]
    rw [tally, List.foldlM_append, ← tally, ih inside.1]
    simp only [Option.bind_eq_bind, Option.bind_some, List.foldlM_cons, List.foldlM_nil,
      Tally.next, entry, Option.map_some, set_sizes, ranks_concat]
    rfl

end Draftsman.Diagram
