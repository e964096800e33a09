/-
Where the labels of edges are seen.

The label of an edge is in the middle of its line, and so it is close to the middle of the two
layers that the edge joins.  Hence it is never outside of the margins, and the only boxes that
it can be in are those of the layers next to the middle (`steps_le_one`): if it is close
enough, those of the layer right in the middle, if there is one (`shows_labelPoint_iff`).
Lines do not lead around boxes, and boxes are drawn over lines, so such a box hides the label.

The label of a loop is beside its node, for which there is no room of its own: it is seen where
the picture reaches as far and no sibling stands there (`shows_loopLabel_iff`).
-/
import Draftsman.Proofs.Diagram.Halfway
import Draftsman.Proofs.Diagram.Layers

namespace Draftsman.Diagram

/-! ### What covers a label -/

section Covered

variable {α : Type} [Field α] [LinearOrder α] [IsStrictOrderedRing α]

theorem Placement.mem_box_iff {p : Placement α} {pt : Point α} :
    pt ∈ p.box ↔ ∀ a, |pt.on a - p.centre.on a| ≤ p.size a / 2 := by
  refine forall_congr' fun a => ?_
  rw [low, high, abs_le]
  constructor
  · rintro ⟨from_low, to_high⟩
    constructor <;> linarith
  · rintro ⟨from_low, to_high⟩
    constructor <;> linarith

/-- Whether a point can be seen: it is not outside of everything, and no box covers it. -/
def Layout.Shows (l : Layout α) (pt : Point α) : Prop :=
  (∀ a, 0 ≤ pt.on a ∧ pt.on a ≤ l.extent a) ∧ ∀ r ∈ l.nodes, pt ∉ r.box

/-- Whether a box is as far across the layers as a point. -/
def Spans (d : Diagram) (r : Placement α) (pt : Point α) : Prop :=
  r.low d.direction.cross ≤ pt.on d.direction.cross ∧
    pt.on d.direction.cross ≤ r.high d.direction.cross

/-- How many half steps a layer is away from the middle of two others. -/
def stepsFrom (layer layer' between : Nat) : ℤ := layer + layer' - 2 * between

variable [Scalar α] [Exact α] {d : Diagram} {p q r : Placement α}

/-- What is drawn is in the room for the nodes. -/
theorem centre_inside (drawn : p ∈ (d.layout : Layout α).nodes) (a : Axis) :
    d.origin a ≤ p.centre.on a ∧ p.centre.on a ≤ (d.layout : Layout α).extent a - 32 := by
  obtain ⟨i, here, -, same⟩ := d.exists_placedIn drawn
  obtain ⟨from_low, to_high⟩ := d.box_inside (α := α) here a
  have size := size_pos_of_mem drawn a
  rw [same, Placement.low] at from_low
  rw [same, Placement.high] at to_high
  constructor <;> linarith

theorem halfway_main (first : p ∈ (d.layout : Layout α).nodes)
    (second : q ∈ (d.layout : Layout α).nodes) (third : r ∈ (d.layout : Layout α).nodes) :
    (p.centre.on d.direction.main + q.centre.on d.direction.main) / 2 - r.centre.on d.direction.main
      = stepsFrom p.layer q.layer r.layer * ((d.mainSize + 72) / 2) := by
  have centre : ∀ {p : Placement α}, p ∈ (d.layout : Layout α).nodes →
      p.centre.on d.direction.main
        = d.origin d.direction.main + p.layer * (d.mainSize + 72) + d.mainSize / 2 := by
    intro p drawn
    rw [← low_main_of_mem drawn, Placement.low, size_main_of_mem drawn, sub_add_cancel]
  rw [centre first, centre second, centre third, stepsFrom]
  push_cast
  ring

variable {pt : Point α} {near : α}

/--
A box that covers a point close to the middle of two layers is close to the middle, too: half
steps are counted in whole numbers.
-/
theorem steps_lt_of_mem_box (first : p ∈ (d.layout : Layout α).nodes)
    (second : q ∈ (d.layout : Layout α).nodes) (third : r ∈ (d.layout : Layout α).nodes)
    (close : |pt.on d.direction.main
      - (p.centre.on d.direction.main + q.centre.on d.direction.main) / 2| ≤ near) {n : ℤ}
    (small : d.mainSize + 2 * near < n * (d.mainSize + 72)) (inside : pt ∈ r.box) :
    |stepsFrom p.layer q.layer r.layer| < n := by
  have step : (0 : α) < (d.mainSize + 72) / 2 := by
    have size := d.mainSize_pos (α := α)
    linarith
  have from_centre := Placement.mem_box_iff.mp inside d.direction.main
  rw [size_main_of_mem third] at from_centre
  rw [abs_sub_comm] at close
  have far := (abs_sub_le _ _ _).trans (add_le_add close from_centre)
  rw [halfway_main first second third, abs_mul, abs_of_pos step] at far
  have fewer : (|stepsFrom p.layer q.layer r.layer| : α) * ((d.mainSize + 72) / 2)
      < n * ((d.mainSize + 72) / 2) := by linarith
  exact_mod_cast lt_of_mul_lt_mul_right fewer step.le

/-- A box that covers a point close enough to the middle of two layers is in the middle. -/
theorem steps_eq_zero_of_mem_box (first : p ∈ (d.layout : Layout α).nodes)
    (second : q ∈ (d.layout : Layout α).nodes) (third : r ∈ (d.layout : Layout α).nodes)
    (close : |pt.on d.direction.main
      - (p.centre.on d.direction.main + q.centre.on d.direction.main) / 2| ≤ near)
    (small : near < 36) (inside : pt ∈ r.box) : stepsFrom p.layer q.layer r.layer = 0 := by
  have less : d.mainSize + 2 * near < ((1 : ℤ) : α) * (d.mainSize + 72) := by
    rw [Int.cast_one]
    linarith
  exact Int.abs_lt_one_iff.mp (steps_lt_of_mem_box first second third close less inside)

end Covered

/-! ### Labels of lines -/

section Line

variable {α : Type} [Field α] [LinearOrder α] [IsStrictOrderedRing α] [Scalar α] [Exact α]
variable {d : Diagram} {p q r : Placement α} {shape shape' : Shape}
variable (first : p ∈ (d.layout : Layout α).nodes) (separate : p.Separate q)
  (rooted : shape.Rooted α) (rooted' : shape'.Rooted α)

include first separate rooted rooted'

/-- The label of a line is close to the middle of two layers. -/
theorem labelPoint_near_main : |(labelPoint shape p shape' q).on d.direction.main
    - (p.centre.on d.direction.main + q.centre.on d.direction.main) / 2| ≤ d.mainSize / 8 :=
  size_main_of_mem first ▸ separate.near_halfway rooted rooted' d.direction.main

variable (second : q ∈ (d.layout : Layout α).nodes)

include second

/-- The label of a line is where the nodes are. -/
theorem labelPoint_inside (a : Axis) :
    d.origin a ≤ (labelPoint shape p shape' q).on a ∧
      (labelPoint shape p shape' q).on a ≤ (d.layout : Layout α).extent a - 32 := by
  obtain ⟨from_min, to_max⟩ := separate.labelPoint_between rooted rooted' a
  obtain ⟨begins, ends⟩ := centre_inside first a
  obtain ⟨begins', ends'⟩ := centre_inside second a
  exact ⟨(le_min begins begins').trans from_min, to_max.trans (max_le ends ends')⟩

/-- What covers the label of a line is not further than half a step from the middle. -/
theorem steps_le_one (third : r ∈ (d.layout : Layout α).nodes)
    (inside : labelPoint shape p shape' q ∈ r.box) :
    |stepsFrom p.layer q.layer r.layer| ≤ 1 := by
  have close := labelPoint_near_main first separate rooted rooted'
  have less : d.mainSize + 2 * (d.mainSize / 8) < ((2 : ℤ) : α) * (d.mainSize + 72) := by
    have size := d.mainSize_pos (α := α)
    push_cast
    linarith
  exact Int.lt_add_one_iff.mp (steps_lt_of_mem_box first second third close less inside)

/-- If nodes are short or outlines are alike, what covers the label is in the middle. -/
theorem steps_eq_zero (short : (d.mainSize : α) < 288 ∨ shape.frame = shape'.frame)
    (third : r ∈ (d.layout : Layout α).nodes) (inside : labelPoint shape p shape' q ∈ r.box) :
    stepsFrom p.layer q.layer r.layer = 0 := by
  rcases short with short | alike
  · have close := labelPoint_near_main first separate rooted rooted'
    exact steps_eq_zero_of_mem_box first second third close (by linarith) inside
  · have close : |(labelPoint shape p shape' q).on d.direction.main
        - (p.centre.on d.direction.main + q.centre.on d.direction.main) / 2| ≤ 0 := by
      rw [separate.labelPoint_on, separate.share_eq alike, sub_self, mul_zero, zero_div, abs_zero]
    exact steps_eq_zero_of_mem_box first second third close (by norm_num) inside

/-- A box in the middle covers a label if it is as far across the layers. -/
theorem mem_box_iff_spans (third : r ∈ (d.layout : Layout α).nodes)
    (halfway : stepsFrom p.layer q.layer r.layer = 0) :
    labelPoint shape p shape' q ∈ r.box ↔ d.Spans r (labelPoint shape p shape' q) := by
  refine ⟨fun inside => inside d.direction.cross, fun spans => ?_⟩
  have size := d.mainSize_pos (α := α)
  have middle := halfway_main first second third
  rw [halfway, Int.cast_zero, zero_mul, sub_eq_zero] at middle
  obtain ⟨below, above⟩ := abs_le.mp (labelPoint_near_main first separate rooted rooted')
  intro a
  rcases d.direction.axis_cases a with rfl | rfl
  · rw [Placement.low, Placement.high, size_main_of_mem third, ← middle]
    constructor <;> linarith
  · exact spans

/-- A label close enough to the middle is seen if no box in the middle is in its way. -/
theorem shows_labelPoint_iff (short : (d.mainSize : α) < 288 ∨ shape.frame = shape'.frame) :
    (d.layout : Layout α).Shows (labelPoint shape p shape' q) ↔
      ∀ r ∈ (d.layout : Layout α).nodes, 2 * r.layer = p.layer + q.layer →
        ¬ d.Spans r (labelPoint shape p shape' q) := by
  have middle : ∀ r : Placement α,
      stepsFrom p.layer q.layer r.layer = 0 ↔ 2 * r.layer = p.layer + q.layer := by
    intro r
    rw [stepsFrom]
    omega
  constructor
  · rintro ⟨-, uncovered⟩ r third halfway spans
    have covers := mem_box_iff_spans first separate rooted rooted' second third
      ((middle r).mpr halfway)
    exact uncovered r third (covers.mpr spans)
  · intro free
    refine ⟨fun a => ?_, fun r third inside => ?_⟩
    · obtain ⟨begins, ends⟩ := labelPoint_inside first separate rooted rooted' second a
      have start := d.origin_nonneg (α := α) a
      constructor <;> linarith
    · have zero := steps_eq_zero first separate rooted rooted' second short third inside
      exact free r third ((middle r).mp zero) (inside d.direction.cross)

end Line

/-! ### Labels of loops -/

section Loop

variable {α : Type} [Field α] [Scalar α]

/-- Where the label of a loop is. -/
def loopLabel (p : Placement α) : Point α := ⟨p.high .horizontal + 40, p.y⟩

variable [LinearOrder α]

/--
Whether there is room for the label of a loop: between the layers of a diagram from left to
right there is, and elsewhere if no sibling stands there and the picture reaches as far.
-/
def LoopRoom (d : Diagram) (p : Placement α) : Prop :=
  (d.direction = .leftRight ∧ p.layer + 1 < layerCount d.layers) ∨
  (d.direction = .topBottom → p.rank + 1 = d.layers.count p.layer) ∧
    p.high .horizontal + 40 ≤ (d.layout : Layout α).extent .horizontal

variable [IsStrictOrderedRing α] [Exact α] {d : Diagram} {p r : Placement α}

/-- Where there is room for the label of a loop the picture reaches as far. -/
theorem LoopRoom.le_extent (room : d.LoopRoom p) (drawn : p ∈ (d.layout : Layout α).nodes) :
    p.high .horizontal + 40 ≤ (d.layout : Layout α).extent .horizontal := by
  rcases room with ⟨dir, next⟩ | ⟨-, fits⟩
  · have step := d.layer_step (α := α) (Nat.lt_succ_self p.layer)
    have behind := d.layer_fits (α := α) next
    have low := low_main_of_mem drawn
    have long := size_main_of_mem drawn
    have size := d.mainSize_pos (α := α)
    have room := d.mainExtent_le (α := α)
    rw [dir, Direction.main] at low long room
    rw [Placement.high_eq]
    push_cast at step behind
    linarith
  · exact fits

/-- Beside a loop in a diagram from left to right stands no box. -/
theorem loopLabel_uncovered_leftRight (dir : d.direction = .leftRight)
    (drawn : p ∈ (d.layout : Layout α).nodes) (drawn' : r ∈ (d.layout : Layout α).nodes) :
    loopLabel p ∉ r.box := by
  intro inside
  obtain ⟨from_low, to_high⟩ := inside .horizontal
  have size := d.mainSize_pos (α := α)
  have low := low_main_of_mem drawn
  have low' := low_main_of_mem drawn'
  have long := size_main_of_mem drawn
  have long' := size_main_of_mem drawn'
  rw [dir, Direction.main] at low low' long long'
  rw [loopLabel, Point.on, Placement.high_eq, low, low', long] at from_low
  rw [loopLabel, Point.on, p.high_eq, r.high_eq, low, low', long, long'] at to_high
  rcases Nat.lt_or_ge p.layer r.layer with behind | before
  · have step := d.layer_step (α := α) behind
    linarith
  · have along := row_mono (by linarith : (0 : α) ≤ d.mainSize + 72) before
    linarith

/-- Behind the last sibling of a diagram from top to bottom stands no box. -/
theorem loopLabel_uncovered_topBottom (dir : d.direction = .topBottom)
    (last : p.rank + 1 = d.layers.count p.layer)
    (drawn : p ∈ (d.layout : Layout α).nodes) (drawn' : r ∈ (d.layout : Layout α).nodes) :
    loopLabel p ∉ r.box := by
  intro inside
  -- The label is level with its node, and so is whatever covers it.
  have level : r.layer = p.layer := by
    have close : |(loopLabel p).on d.direction.main
        - (p.centre.on d.direction.main + p.centre.on d.direction.main) / 2| ≤ 0 := by
      rw [dir, Direction.main, add_self_div_two]
      exact (abs_eq_zero.mpr (sub_self _)).le
    have steps := steps_eq_zero_of_mem_box drawn drawn drawn' close (by norm_num) inside
    rw [stepsFrom] at steps
    omega
  have less : r.rank ≤ p.rank := by
    obtain ⟨k, there, rank, -⟩ := d.exists_placedIn drawn'
    have within := rankAt_lt_count there
    rw [rank, level, ← last] at within
    exact Nat.lt_succ_iff.mp within
  obtain ⟨-, to_high⟩ := inside .horizontal
  have size := d.crossSize_pos (α := α)
  have low := low_cross_of_mem drawn
  have low' := low_cross_of_mem drawn'
  have wide := size_cross_of_mem drawn
  have wide' := size_cross_of_mem drawn'
  rw [dir, Direction.cross] at low low' wide wide'
  rw [loopLabel, Point.on, p.high_eq, r.high_eq, low, low', wide, wide', level] at to_high
  have across := row_mono (by linarith : (0 : α) ≤ d.crossSize + 40) less
  linarith

/-- Where there is room for the label of a loop it is seen. -/
theorem LoopRoom.shows (room : d.LoopRoom p) (drawn : p ∈ (d.layout : Layout α).nodes) :
    (d.layout : Layout α).Shows (loopLabel p) := by
  constructor
  · intro a
    obtain ⟨begins, ends⟩ := centre_inside drawn a
    have start := d.origin_nonneg (α := α) a
    cases a with
    | horizontal =>
      have size := size_pos_of_mem drawn .horizontal
      refine ⟨?_, room.le_extent drawn⟩
      rw [loopLabel, Point.on, Placement.high]
      linarith
    | vertical =>
      show 0 ≤ p.centre.on .vertical ∧ p.centre.on .vertical ≤ _
      constructor <;> linarith
  · intro r drawn'
    cases dir : d.direction with
    | leftRight => exact loopLabel_uncovered_leftRight dir drawn drawn'
    | topBottom =>
      rcases room with ⟨across, -⟩ | ⟨last, -⟩
      · exact absurd (dir.symm.trans across) (by decide)
      · exact loopLabel_uncovered_topBottom dir (last dir) drawn drawn'

/-- The next sibling in a diagram from top to bottom begins where the label of the loop is. -/
theorem exists_covers_loopLabel (dir : d.direction = .topBottom)
    (drawn : p ∈ (d.layout : Layout α).nodes)
    (more : p.rank + 1 < d.layers.count p.layer) :
    ∃ r ∈ (d.layout : Layout α).nodes, loopLabel p ∈ r.box := by
  obtain ⟨i, here, next⟩ := exists_rankAt more
  have drawn' : (d.layout : Layout α).nodes[i]? = some (d.placedIn i p.layer) :=
    d.layout_nodes_eq_some_iff.mpr ⟨p.layer, here, rfl⟩
  refine ⟨d.placedIn i p.layer, List.mem_of_getElem? drawn', ?_⟩
  intro a
  cases a with
  | horizontal =>
    -- The gap between siblings is just as wide as the loop and the gap behind it.
    have size := d.crossSize_pos (α := α)
    have low := low_cross_of_mem drawn
    have wide := size_cross_of_mem drawn
    have low' : (d.placedIn i p.layer : Placement α).low d.direction.cross = _ := d.low_cross
    have high' : (d.placedIn i p.layer : Placement α).high d.direction.cross = _ := d.high_cross
    rw [next] at low'
    rw [dir, Direction.cross] at low wide low' high'
    push_cast at low'
    rw [loopLabel, Point.on, p.high_eq]
    constructor <;> linarith
  | vertical =>
    have size := d.mainSize_pos (α := α)
    have low := low_main_of_mem drawn
    have tall := size_main_of_mem drawn
    have low' : (d.placedIn i p.layer : Placement α).low d.direction.main = _ := d.low_main
    have high' : (d.placedIn i p.layer : Placement α).high d.direction.main = _ := d.high_main
    rw [dir, Direction.main] at low tall low' high'
    rw [Placement.low, tall] at low
    show _ ≤ p.centre.on .vertical ∧ p.centre.on .vertical ≤ _
    constructor <;> linarith

/-- **The label of a loop is seen exactly where there is room for it.** -/
theorem shows_loopLabel_iff (drawn : p ∈ (d.layout : Layout α).nodes) :
    (d.layout : Layout α).Shows (loopLabel p) ↔ d.LoopRoom p := by
  constructor
  · intro shows
    obtain ⟨-, fits⟩ := shows.1 .horizontal
    refine Or.inr ⟨fun dir => ?_, fits⟩
    by_contra other
    obtain ⟨i, here, rank, -⟩ := d.exists_placedIn drawn
    have within := rankAt_lt_count here
    obtain ⟨r, drawn', covers⟩ := exists_covers_loopLabel dir drawn (by omega)
    exact shows.2 r drawn' covers
  · intro room
    exact room.shows drawn

end Loop

/-! ### All labels -/

/-- The label of a loop is behind its arc. -/
theorem loopStroke_label {α : Type} [Field α] [LinearOrder α] [Scalar α] [Exact α] [CharZero α]
    (p : Placement α) (text : String) (dashed : Bool) :
    (loopStroke p (some text) dashed).label = some ⟨loopLabel p, text⟩ := by
  have out : p.x + p.width / units 2 + loopReach + loopGap = p.high .horizontal + 40 := by
    rw [loopReach, loopGap, units_eq, units_eq, units_eq]
    show _ = p.x + p.width / 2 + 40
    push_cast
    ring
  show some (Caption.mk (Point.mk _ p.y) text) = _
  rw [out, loopLabel]

/-- An edge between two nodes joins layers that differ. -/
theorem Sound.placement_layer_ne {α : Type} [Add α] [Sub α] [Mul α] [Div α] [Scalar α]
    {d : Diagram} (sound : d.Sound) {number i j : Nat} {e : Edge} {n m : Node} {p q : Placement α}
    (edge : d.edges[number]? = some e) (source : d.nodes[i]? = some n ∧ n.id = e.source)
    (target : d.nodes[j]? = some m ∧ m.id = e.target)
    (begins : (d.layout : Layout α).nodes[i]? = some p)
    (ends : (d.layout : Layout α).nodes[j]? = some q) (other : i ≠ j) : p.layer ≠ q.layer := by
  have joins : d.Joins number i j := by
    refine ⟨e, edge, ?_, ?_⟩
    · rw [ids, List.getElem?_map, source.1, Option.map_some, source.2]
    · rw [ids, List.getElem?_map, target.1, Option.map_some, target.2]
  have differ := sound.layer_ne joins other
  rwa [List.getD_eq_getElem?_getD, List.getD_eq_getElem?_getD, layers_of_placement begins,
    layers_of_placement ends, Option.getD_some, Option.getD_some] at differ

/--
**The label of an edge is seen unless a box halfway covers it.**  The label of an edge
between two nodes is in the room for the nodes, outside of both their outlines and close to
the point halfway between their centres.  A box that covers it is of a layer not further than
half a step from the middle of the two layers; and if nodes are less than 288 long or the two
outlines are alike, the label is seen if and only if no box of the layer halfway is in its
way.  So it is seen if the layers are an odd number apart, as it is from one layer to the
next.  The label of a loop is seen if and only if there is room for it.
-/
theorem labels_shown {d : Diagram} (checked : d.check = .ok ()) {number i j : Nat} {e : Edge}
    {n m : Node} {text : String} (edge : d.edges[number]? = some e)
    (source : d.nodes[i]? = some n ∧ n.id = e.source)
    (target : d.nodes[j]? = some m ∧ m.id = e.target) (labelled : e.label = some text) :
    let l : Layout ℝ := d.layout
    ∃ (p q : Placement ℝ) (stroke : Stroke ℝ) (label : Point ℝ),
      l.nodes[i]? = some p ∧ l.nodes[j]? = some q ∧
      (d.picture l).strokes[number]? = some stroke ∧ stroke.label = some ⟨label, text⟩ ∧
      (i = j → (l.Shows label ↔ d.LoopRoom p)) ∧
      (i ≠ j → p.layer ≠ q.layer ∧
        (∀ a, d.origin a ≤ label.on a ∧ label.on a ≤ l.extent a - 32) ∧
        1 < p.reach n.shape label ∧ 1 < q.reach m.shape label ∧
        (∀ a, |label.on a - (p.centre.on a + q.centre.on a) / 2| ≤ p.size a / 8) ∧
        (n.shape.frame = m.shape.frame → label = midpoint p.centre q.centre) ∧
        (∀ r ∈ l.nodes, label ∈ r.box → |stepsFrom p.layer q.layer r.layer| ≤ 1) ∧
        ((d.mainSize : ℝ) < 288 ∨ n.shape.frame = m.shape.frame →
          (l.Shows label ↔
            ∀ r ∈ l.nodes, 2 * r.layer = p.layer + q.layer → ¬ d.Spans r label))) := by
  intro l
  have sound := (check_eq_ok_iff d).mp checked
  obtain ⟨p, begins⟩ := d.exists_placement (α := ℝ) source.1
  obtain ⟨q, ends⟩ := d.exists_placement (α := ℝ) target.1
  have first := List.mem_of_getElem? begins
  have second := List.mem_of_getElem? ends
  have drawn := sound.getElem?_strokes edge source target begins ends
  simp only [labelled] at drawn
  by_cases same : i = j
  · rw [if_pos same] at drawn
    refine ⟨p, q, _, _, begins, ends, drawn, loopStroke_label p text _, fun _ => ?_,
      fun other => absurd same other⟩
    exact shows_loopLabel_iff first
  · rw [if_neg same] at drawn
    have separate := separate_of_ne begins ends same
    have rooted := n.shape.rooted_real
    have rooted' := m.shape.rooted_real
    refine ⟨p, q, _, labelPoint n.shape p m.shape q, begins, ends, drawn, rfl,
      fun loop => absurd loop same, fun _ => ⟨?_, ?_, ?_, ?_, ?_, ?_, ?_, ?_⟩⟩
    · exact sound.placement_layer_ne edge source target begins ends same
    · exact labelPoint_inside first separate rooted rooted' second
    · exact separate.one_lt_reach_labelPoint rooted rooted'
    · rw [← labelPoint_comm]
      exact separate.symm.one_lt_reach_labelPoint rooted' rooted
    · exact separate.near_halfway rooted rooted'
    · exact separate.eq_halfway
    · exact fun r third => steps_le_one first separate rooted rooted' second third
    · exact shows_labelPoint_iff first separate rooted rooted' second

/-- A diagram with an edge that skips a layer. -/
def skipping : Diagram where
  title := none
  direction := .topBottom
  nodes := [⟨"a", "a", .box⟩, ⟨"b", "b", .box⟩, ⟨"c", "c", .box⟩]
  edges := [⟨"a", "b", some "go"⟩, ⟨"b", "c", none⟩, ⟨"a", "c", some "skip"⟩]

theorem skipping_nodes : (skipping.layout : Layout ℝ).nodes =
    [⟨92, 60, 120, 56, 0, 0⟩, ⟨92, 188, 120, 56, 1, 0⟩, ⟨92, 316, 120, 56, 2, 0⟩] := by
  have dir : skipping.direction = .topBottom := rfl
  have title : skipping.title = none := rfl
  have long : skipping.longestLabel = 1 := rfl
  have layers : skipping.layers = [0, 1, 2] := rfl
  have widest : greatest (layerSizes [0, 1, 2]) = 1 := rfl
  have ranks : ranks [0, 1, 2] = [0, 0, 0] := rfl
  rw [layout_nodes_eq, layers, ranks]
  norm_num [placement, mainMiddle, crossMiddle, availableCross, canvasWidth, titleWidth, mainStep,
    mainSize, crossSize, nodeWidth_eq, crossSpan, span, titleHeight, dir, title, long, widest]

/-- The label of the edge from one of its layers to the next is seen. -/
theorem labels_shown_next : skipping.check = .ok () ∧ ∃ (stroke : Stroke ℝ) (label : Point ℝ),
    (skipping.picture (skipping.layout : Layout ℝ)).strokes[0]? = some stroke ∧
      stroke.label = some ⟨label, "go"⟩ ∧ (skipping.layout : Layout ℝ).Shows label := by
  have checked : skipping.check = .ok () := rfl
  have edge : skipping.edges[0]? = some ⟨"a", "b", some "go"⟩ := rfl
  obtain ⟨p, q, stroke, label, begins, ends, drawn, labelled, -, line⟩ :=
    labels_shown checked edge (i := 0) (j := 1) ⟨rfl, rfl⟩ ⟨rfl, rfl⟩ rfl
  refine ⟨checked, stroke, label, drawn, labelled, ?_⟩
  obtain ⟨-, -, -, -, -, -, -, shows⟩ := line zero_ne_one
  have short : (skipping.mainSize : ℝ) < 288 := nodeHeight_eq.trans_lt (by norm_num)
  rw [skipping_nodes] at begins ends
  cases begins
  cases ends
  refine (shows (Or.inl short)).mpr fun r _ halfway => ?_
  have odd : 2 * r.layer = 0 + 1 := halfway
  omega

/--
A diagram with long nodes whose outlines differ.  The line from `a` up to `b` runs further
inside the box than inside the diamond, so that its middle is among the boxes below `b`.
-/
def leaning : Diagram where
  title := none
  direction := .leftRight
  nodes := [⟨"a", String.ofList (List.replicate 300 'a'), .box⟩, ⟨"b", "b", .diamond⟩,
    ⟨"c", "c", .box⟩, ⟨"d", "d", .box⟩, ⟨"e", "e", .box⟩, ⟨"f", "f", .box⟩]
  edges := [⟨"a", "b", some "lean"⟩, ⟨"a", "c", none⟩, ⟨"a", "d", none⟩, ⟨"a", "e", none⟩,
    ⟨"a", "f", none⟩]

theorem leaning_nodes : (leaning.layout : Layout ℝ).nodes =
    [⟨1248, 252, 2432, 56, 0, 0⟩, ⟨3752, 60, 2432, 56, 1, 0⟩, ⟨3752, 156, 2432, 56, 1, 1⟩,
      ⟨3752, 252, 2432, 56, 1, 2⟩, ⟨3752, 348, 2432, 56, 1, 3⟩, ⟨3752, 444, 2432, 56, 1, 4⟩] := by
  have dir : leaning.direction = .leftRight := rfl
  have title : leaning.title = none := rfl
  have long : leaning.longestLabel = 300 := by
    show greatest [(String.ofList (List.replicate 300 'a')).length, 1, 1, 1, 1, 1] = 300
    rw [String.length_ofList, List.length_replicate]
    rfl
  have layers : leaning.layers = [0, 1, 1, 1, 1, 1] := rfl
  have widest : greatest (layerSizes [0, 1, 1, 1, 1, 1]) = 5 := rfl
  have ranks : ranks [0, 1, 1, 1, 1, 1] = [0, 0, 1, 2, 3, 4] := rfl
  rw [layout_nodes_eq, layers, ranks]
  norm_num [placement, mainMiddle, crossMiddle, availableCross, mainStep, mainSize, crossSize,
    nodeWidth_eq, crossSpan, span, titleHeight, dir, title, long, widest]

/-- Whether a diagram passes its check, but one of its labels is not seen. -/
def HidesLabel (d : Diagram) : Prop :=
  d.check = .ok () ∧ ∃ stroke ∈ (d.picture (d.layout : Layout ℝ)).strokes, ∃ caption : Caption ℝ,
    stroke.label = some caption ∧ ¬ (d.layout : Layout ℝ).Shows caption.centre

/-- A label of a line is hidden if a box covers the point in the middle of it. -/
theorem hidesLabel_of_mem_box {d : Diagram} (checked : d.check = .ok ()) {number i j : Nat}
    {e : Edge} {n m : Node} {p q r : Placement ℝ} {text : String}
    (edge : d.edges[number]? = some e) (source : d.nodes[i]? = some n ∧ n.id = e.source)
    (target : d.nodes[j]? = some m ∧ m.id = e.target) (labelled : e.label = some text)
    (other : i ≠ j) (begins : (d.layout : Layout ℝ).nodes[i]? = some p)
    (ends : (d.layout : Layout ℝ).nodes[j]? = some q) (third : r ∈ (d.layout : Layout ℝ).nodes)
    (covers : labelPoint n.shape p m.shape q ∈ r.box) : d.HidesLabel := by
  have drawn := ((check_eq_ok_iff d).mp checked).getElem?_strokes edge source target begins ends
  simp only [labelled, if_neg other] at drawn
  exact ⟨checked, _, List.mem_of_getElem? drawn, _, rfl, fun shows => shows.2 r third covers⟩

/-- The label of an edge that skips a layer can be hidden. -/
theorem skipping_hidesLabel : skipping.HidesLabel := by
  have begins : (skipping.layout : Layout ℝ).nodes[0]? = some ⟨92, 60, 120, 56, 0, 0⟩ := by
    rw [skipping_nodes]
    rfl
  have ends : (skipping.layout : Layout ℝ).nodes[2]? = some ⟨92, 316, 120, 56, 2, 0⟩ := by
    rw [skipping_nodes]
    rfl
  have third : ⟨92, 188, 120, 56, 1, 0⟩ ∈ (skipping.layout : Layout ℝ).nodes := by
    simp [skipping_nodes]
  have edge : skipping.edges[2]? = some ⟨"a", "c", some "skip"⟩ := rfl
  refine hidesLabel_of_mem_box rfl edge ⟨rfl, rfl⟩ ⟨rfl, rfl⟩ rfl (by decide) begins ends third ?_
  rw [(separate_of_ne begins ends (by decide)).eq_halfway rfl, Placement.mem_box_iff]
  intro a
  cases a <;> norm_num [midpoint, Placement.centre, Placement.size, Point.on]

/-- The label of an edge to the next layer can be hidden, too. -/
theorem leaning_hidesLabel : leaning.HidesLabel := by
  have begins : (leaning.layout : Layout ℝ).nodes[0]? = some ⟨1248, 252, 2432, 56, 0, 0⟩ := by
    rw [leaning_nodes]
    rfl
  have ends : (leaning.layout : Layout ℝ).nodes[1]? = some ⟨3752, 60, 2432, 56, 1, 0⟩ := by
    rw [leaning_nodes]
    rfl
  have third : ⟨3752, 156, 2432, 56, 1, 1⟩ ∈ (leaning.layout : Layout ℝ).nodes := by
    simp [leaning_nodes]
  have edge : leaning.edges[0]? = some ⟨"a", "b", some "lean"⟩ := rfl
  refine hidesLabel_of_mem_box rfl edge ⟨rfl, rfl⟩ ⟨rfl, rfl⟩ rfl (by decide) begins ends third ?_
  rw [(separate_of_ne begins ends (by decide)).labelPoint_eq, Placement.mem_box_iff]
  intro a
  cases a <;> norm_num [Point.towards, Placement.share, Placement.reach, Placement.offset,
    Shape.gauge, Placement.centre, Placement.size, Point.on, abs_le]

/-- A diagram with a loop, for whose label the picture is too narrow. -/
def looping : Diagram where
  title := none
  direction := .topBottom
  nodes := [⟨"a", "a", .box⟩]
  edges := [⟨"a", "a", some "again"⟩]

theorem looping_layout : (looping.layout : Layout ℝ).nodes = [⟨92, 60, 120, 56, 0, 0⟩] ∧
    (looping.layout : Layout ℝ).extent .horizontal = 184 := by
  have dir : looping.direction = .topBottom := rfl
  have title : looping.title = none := rfl
  have long : looping.longestLabel = 1 := rfl
  have layers : looping.layers = [0] := rfl
  have widest : greatest (layerSizes [0]) = 1 := rfl
  have ranks : ranks [0] = [0] := rfl
  constructor
  · rw [layout_nodes_eq, layers, ranks]
    norm_num [placement, mainMiddle, crossMiddle, availableCross, canvasWidth, titleWidth, mainStep,
      mainSize, crossSize, nodeWidth_eq, crossSpan, span, titleHeight, dir, title, long, widest]
  · show looping.canvasWidth looping.layers = 184
    rw [layers]
    norm_num [canvasWidth, titleWidth, crossSize, nodeWidth_eq, crossSpan, span, dir, title, long,
      widest]

/-- The label of a loop can be outside of everything. -/
theorem looping_hidesLabel : looping.HidesLabel := by
  obtain ⟨nodes, width⟩ := looping_layout
  have begins : (looping.layout : Layout ℝ).nodes[0]? = some ⟨92, 60, 120, 56, 0, 0⟩ := by
    rw [nodes]
    rfl
  have checked : looping.check = .ok () := rfl
  have edge : looping.edges[0]? = some ⟨"a", "a", some "again"⟩ := rfl
  have drawn := ((check_eq_ok_iff looping).mp checked).getElem?_strokes edge (i := 0) (j := 0)
    ⟨rfl, rfl⟩ ⟨rfl, rfl⟩ begins begins
  dsimp only at drawn
  rw [if_pos rfl] at drawn
  refine ⟨checked, _, List.mem_of_getElem? drawn, _, loopStroke_label _ _ _, ?_⟩
  intro shows
  obtain ⟨-, fits⟩ := shows.1 .horizontal
  rw [width] at fits
  norm_num [loopLabel, Point.on, Placement.high, Placement.centre, Placement.size] at fits

/-- Not all labels are seen, be it behind a skipped layer, beside long nodes or beside a loop. -/
theorem not_labels_shown : skipping.HidesLabel ∧ leaning.HidesLabel ∧ looping.HidesLabel :=
  ⟨skipping_hidesLabel, leaning_hidesLabel, looping_hidesLabel⟩

end Draftsman.Diagram
