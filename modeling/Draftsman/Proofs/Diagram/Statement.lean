/-
Diagrams written one statement per line.

The script of a diagram has a line for its title, if it has one, a line for its direction,
and then one for each node and one for each edge.  Texts stand in it as they are, so a text
must fit its place: no blanks at its ends, no end of a line in it, and in the label of a node
nothing that could be taken for an arrow or for part of a delimiter.  A diagram with such
texts is read back from its script (`ofLines_script`).
-/
import Draftsman.Proofs.Diagram.Line

namespace Draftsman.Diagram

open Draftsman.Text

/-! ### Writing -/

/-- The lines that describe a diagram. -/
def scriptLines (d : Diagram) : List (List Char) :=
  (d.title.map titleLine).toList ++ directionLine d.direction :: d.nodes.map Node.line ++
    d.edges.map Edge.line

/-- The text that describes a diagram. -/
def script (d : Diagram) : String := String.ofList (['\n'].intercalate d.scriptLines)

/-- Diagrams whose texts can all stand in lines. -/
structure Scriptable (d : Diagram) : Prop where
  ids : ∀ id ∈ d.ids, isId id.toList = true
  title : ∀ text ∈ d.title, Fits text
  nodes : ∀ node ∈ d.nodes, node.Fits
  edges : ∀ e ∈ d.edges, ∀ text ∈ e.label, Fits text

/-! ### Entering what lines say -/

/-- Lines that make one draft of another, wherever they stand and whatever is behind them. -/
def Draft.Leads (draft : Draft) (lines : List (List Char)) (next : Draft) : Prop :=
  ∀ number rest,
    draft.addLines number (lines ++ rest) = next.addLines (number + lines.length) rest

theorem Draft.Leads.nil (draft : Draft) : draft.Leads [] draft := fun _ _ => rfl

theorem Draft.Leads.trans {a b c : Draft} {lines more : List (List Char)} (first : a.Leads lines b)
    (second : b.Leads more c) : a.Leads (lines ++ more) c := by
  intro number rest
  rw [List.append_assoc, first, second, List.length_append, Nat.add_assoc]

/-- A line leads to the draft with what it says. -/
theorem Draft.leads_line {draft next : Draft} {line : List Char} {statement : Statement}
    (said : Statement.ofLine line = .ok statement) (added : draft.add statement = .ok next) :
    draft.Leads [line] next := by
  intro number rest
  have entered : draft.addLine number line = .ok next := by
    rw [Draft.addLine, said]
    exact added
  rw [List.singleton_append, Draft.addLines, entered]
  rfl

theorem indexOf?_eq_none {d : Diagram} {id : String} (new : id ∉ d.ids) :
    d.indexOf? id = none := by
  rw [indexOf?, List.findIdx?_eq_none_iff]
  intro node mem
  have other : node.id ≠ id := fun same => new (same ▸ List.mem_map_of_mem mem)
  simpa using other

theorem mention_eq_self {d : Diagram} {id : String} (there : id ∈ d.ids) : d.mention id = d := by
  obtain ⟨node, mem, rfl⟩ := List.mem_map.mp there
  cases found : d.indexOf? node.id with
  | none =>
    rw [indexOf?, List.findIdx?_eq_none_iff] at found
    simpa using found node mem
  | some index => rw [mention, found]

/-- Declarations of new nodes put them behind the others. -/
theorem leads_nodes {nodes : List Node}
    (said : ∀ node ∈ nodes, Statement.ofLine node.line = .ok (.declaration node))
    (distinct : (nodes.map Node.id).Nodup) {d : Diagram} {declared : List String}
    (new : ∀ node ∈ nodes, node.id ∉ declared ∧ node.id ∉ d.ids) :
    Draft.Leads ⟨d, declared⟩ (nodes.map Node.line)
      ⟨{ d with nodes := d.nodes ++ nodes }, (nodes.map Node.id).reverse ++ declared⟩ := by
  induction nodes generalizing d declared with
  | nil =>
    rw [List.append_nil]
    exact Draft.Leads.nil _
  | cons node nodes ih =>
    rw [List.forall_mem_cons] at said new
    rw [List.map_cons, List.nodup_cons] at distinct
    have placed : d.place node = { d with nodes := d.nodes ++ [node] } := by
      rw [place, indexOf?_eq_none new.1.2]
    have added : Draft.add ⟨d, declared⟩ (.declaration node)
        = .ok ⟨{ d with nodes := d.nodes ++ [node] }, node.id :: declared⟩ := by
      rw [Draft.add, if_neg new.1.1, placed]
    have still_new : ∀ other ∈ nodes, other.id ∉ node.id :: declared ∧
        other.id ∉ ({ d with nodes := d.nodes ++ [node] } : Diagram).ids := by
      intro other mem
      have different : other.id ≠ node.id := fun same =>
        distinct.1 (same ▸ List.mem_map_of_mem mem)
      have before := new.2 other mem
      simpa [ids, different] using before
    have others := ih said.2 distinct.2 still_new
    have whole := (Draft.leads_line said.1 added).trans others
    simpa using whole

/-- Edges between nodes that are there are drawn behind the others. -/
theorem leads_edges {edges : List Edge}
    (said : ∀ e ∈ edges, Statement.ofLine e.line = .ok (.chain [e.source, e.target] e.label))
    {d : Diagram} (joined : ∀ e ∈ edges, e.source ∈ d.ids ∧ e.target ∈ d.ids)
    (declared : List String) :
    Draft.Leads ⟨d, declared⟩ (edges.map Edge.line)
      ⟨{ d with edges := d.edges ++ edges }, declared⟩ := by
  induction edges generalizing d with
  | nil =>
    rw [List.append_nil]
    exact Draft.Leads.nil _
  | cons e edges ih =>
    rw [List.forall_mem_cons] at said joined
    have added : Draft.add ⟨d, declared⟩ (.chain [e.source, e.target] e.label)
        = .ok ⟨{ d with edges := d.edges ++ [e] }, declared⟩ := by
      simp [Draft.add, mention_eq_self joined.1.1, mention_eq_self joined.1.2, chainEdges]
    have others := ih said.2 (d := { d with edges := d.edges ++ [e] }) joined.2
    have whole := (Draft.leads_line said.1 added).trans others
    simpa using whole

/-! ### Scripts -/

theorem Scriptable.edge {d : Diagram} (fits : d.Scriptable) (sound : d.Sound) {e : Edge}
    (mem : e ∈ d.edges) : e.Fits where
  source := fits.ids _ (sound.joined e mem).1
  target := fits.ids _ (sound.joined e mem).2
  label := fits.edges e mem

/-- The lines of a script lead to its diagram. -/
theorem Scriptable.leads {d : Diagram} (fits : d.Scriptable) (sound : d.Sound) :
    ∃ declared, Draft.empty.Leads d.scriptLines ⟨d, declared⟩ := by
  have title : Draft.empty.Leads (d.title.map titleLine).toList
      ⟨⟨d.title, .topBottom, [], []⟩, []⟩ := by
    cases titled : d.title with
    | none => exact Draft.Leads.nil _
    | some text => exact Draft.leads_line (ofLine_titleLine (fits.title text titled)) rfl
  have direction : Draft.Leads ⟨⟨d.title, .topBottom, [], []⟩, []⟩ [directionLine d.direction]
      ⟨⟨d.title, d.direction, [], []⟩, []⟩ :=
    Draft.leads_line (ofLine_directionLine d.direction) rfl
  have nodes : Draft.Leads ⟨⟨d.title, d.direction, [], []⟩, []⟩ (d.nodes.map Node.line)
      ⟨⟨d.title, d.direction, d.nodes, []⟩, (d.nodes.map Node.id).reverse ++ []⟩ := by
    refine leads_nodes ?_ sound.distinct fun _ _ => ⟨List.not_mem_nil, List.not_mem_nil⟩
    intro node mem
    exact (fits.nodes node mem).ofLine_line (fits.ids _ (List.mem_map_of_mem mem))
  have edges : Draft.Leads
      ⟨⟨d.title, d.direction, d.nodes, []⟩, (d.nodes.map Node.id).reverse ++ []⟩
      (d.edges.map Edge.line) ⟨d, (d.nodes.map Node.id).reverse ++ []⟩ :=
    leads_edges (d := ⟨d.title, d.direction, d.nodes, []⟩)
      (fun e mem => Edge.ofLine_line (fits.edge sound mem)) sound.joined _
  refine ⟨(d.nodes.map Node.id).reverse ++ [], ?_⟩
  have whole := ((title.trans direction).trans nodes).trans edges
  rwa [List.append_assoc (d.title.map titleLine).toList] at whole

theorem Scriptable.isLine {d : Diagram} (fits : d.Scriptable) (sound : d.Sound) :
    ∀ line ∈ d.scriptLines, IsLine line := by
  intro line mem
  rw [scriptLines, List.append_assoc, List.cons_append, List.mem_append, List.mem_cons,
    List.mem_append] at mem
  rcases mem with title | rfl | declared | drawn
  · obtain ⟨text, titled, rfl⟩ : ∃ text, d.title = some text ∧ titleLine text = line := by
      simpa using title
    have text_fits := fits.title text titled
    exact (solid_titleLine text_fits).isLine (by simp [titleLine, text_fits.whole])
  · cases d.direction <;> exact ⟨by decide, by decide, by decide⟩
  · obtain ⟨node, mem, rfl⟩ := List.mem_map.mp declared
    have is_id := fits.ids _ (List.mem_map_of_mem mem)
    exact (Node.solid_line is_id).isLine
      (Node.whole_line is_id (fits.nodes node mem).label.whole)
  · obtain ⟨e, mem, rfl⟩ := List.mem_map.mp drawn
    have edge_fits := fits.edge sound mem
    refine (Edge.solid_line edge_fits).isLine ?_
    rw [Edge.line_eq]
    exact whole_chainLine edge_fits.valid fun text labelled => (edge_fits.label text labelled).whole

/--
**A diagram whose texts fit in lines is read back from its script**, whether the last line is
ended or not.
-/
theorem ofLines_script {d : Diagram} (sound : d.Sound) (fits : d.Scriptable) :
    ofLines d.script = .ok d ∧ ofLines (d.script ++ "\n") = .ok d := by
  obtain ⟨declared, leads⟩ := fits.leads sound
  have entered := leads 1 []
  rw [List.append_nil] at entered
  have are_lines := fits.isLine sound
  have some_lines : d.scriptLines ≠ [] := by simp [scriptLines]
  constructor
  · rw [ofLines_eq_ok_iff, script, String.toList_ofList, lines_intercalate are_lines, entered]
    exact ⟨_, rfl, sound, rfl⟩
  · have text : (d.script ++ "\n").toList = ['\n'].intercalate d.scriptLines ++ ['\n'] := by
      rw [String.toList_append, script, String.toList_ofList]
      rfl
    rw [ofLines_eq_ok_iff, text, lines_intercalate_ended some_lines are_lines, entered]
    exact ⟨_, rfl, sound, rfl⟩

/-- A diagram whose texts hold what means something in other places. -/
def tricky : Diagram where
  title := some "direction: TB # -> ["
  direction := .leftRight
  nodes := [⟨"a-", "[x] : \"title\"", .box⟩, ⟨".", "(x", .rounded⟩, ⟨"direction", "((", .ellipse⟩,
    ⟨"é", "> -", .diamond⟩]
  edges := [⟨"a-", "direction", some "# a -> b: c"⟩, ⟨".", ".", none⟩]

theorem ofLines_script_tricky :
    tricky.Sound ∧ tricky.Scriptable ∧
      tricky.script
        = "title: direction: TB # -> [\ndirection: LR\na- [[x] : \"title\"]\n. ((x)\n" ++
          "direction (((())\né \x7b> -\x7d\na- -> direction: # a -> b: c\n. -> ." ∧
      ofLines tricky.script = .ok tricky ∧ ofLines (tricky.script ++ "\n") = .ok tricky := by
  have sound : tricky.Sound := (check_eq_ok_iff _).mp (by decide +kernel)
  have fits : tricky.Scriptable :=
    ⟨by decide +kernel, by decide +kernel, by decide +kernel, by decide +kernel⟩
  exact ⟨sound, fits, by decide +kernel, ofLines_script sound fits⟩

end Draftsman.Diagram
