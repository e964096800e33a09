/-
What holds of every draft.

Lines that are entered keep a draft in order: its ids are ids that can be written in a line
and no two of them are the same, every node has a label to be seen, every edge has its two
ends, and what has been declared is there.  So the check of the finished diagram has nothing
left to find but that it is empty (`Draft.Coherent.check`), and a text of lines is refused
for no more than three reasons.
-/
import Draftsman.Proofs.Diagram.Meaning

namespace Draftsman.Diagram

open Draftsman.Text

/-! ### The ids of a line -/

theorem isId_of_declaration {line : List Char} {node : Node}
    (said : declaration line = .ok node) : isId node.id.toList = true := by
  simp only [declaration] at said
  split at said
  · cases said
  · rename_i is_id
    have is_id : isId (line.span fun c => !endsId c).1 = true := by simpa using is_id
    split at said
    · obtain rfl := Except.ok.inj said
      rwa [Node.plain, String.toList_ofList]
    · split at said
      · obtain rfl := Except.ok.inj said
        rwa [String.toList_ofList]
      · cases said

theorem isId_of_chain? {line : List Char} {s : Statement} (said : chain? line = some (.ok s)) :
    ∀ id ∈ s.names, isId id.toList = true := by
  simp only [chain?] at said
  split at said
  · cases said
  · split at said
    · cases said
    · rename_i all_ids
      cases said
      rw [Statement.names, List.forall_mem_map]
      intro id mem
      rw [String.toList_ofList]
      simpa using List.find?_eq_none.mp all_ids id mem

/-- What a line says names nothing, or it is a chain, or it is a declaration. -/
theorem statementOf_cases {line : List Char} {s : Statement} (said : statementOf line = .ok s) :
    s.names = [] ∨ chain? line = some (.ok s) ∨
      ∃ node, declaration line = .ok node ∧ s = .declaration node := by
  unfold statementOf at said
  split at said
  · cases said
    exact .inl rfl
  · split at said
    · split at said <;> cases said
      exact .inl rfl
    · split at said
      · rename_i chain
        exact .inr (.inl (chain.trans (congrArg some said)))
      · cases declared : declaration line with
        | error fault => rw [declared] at said; cases said
        | ok node =>
          rw [declared] at said
          exact .inr (.inr ⟨node, rfl, (Except.ok.inj said).symm⟩)

/-- Whatever a line names is an id. -/
theorem isId_of_ofLine {line : List Char} {s : Statement} (said : Statement.ofLine line = .ok s) :
    ∀ id ∈ s.names, isId id.toList = true := by
  unfold Statement.ofLine at said
  split at said
  · cases said
    exact List.forall_mem_nil _
  · cases said
    exact List.forall_mem_nil _
  · rcases statementOf_cases said with nothing | chain | ⟨node, declared, rfl⟩
    · rw [nothing]
      exact List.forall_mem_nil _
    · exact isId_of_chain? chain
    · exact List.forall_mem_singleton.mpr (isId_of_declaration declared)

theorem isId_of_names {ls : List (List Char)} {id : String} (mem : id ∈ names (statements ls)) :
    isId id.toList = true := by
  obtain ⟨s, among, named⟩ := List.mem_flatMap.mp mem
  obtain ⟨line, -, said⟩ := mem_statements.mp among
  exact isId_of_ofLine said id named

theorem not_blank_of_isId {id : String} (is_id : isId id.toList = true) :
    blankString id = false := by
  rw [← Bool.not_eq_true, blankString, isAllBlank_iff]
  exact (solid_of_isId is_id).not_blank

/-! ### The ends of edges -/

theorem chainEdges_ends {label : Option String} {ids : List String} :
    ∀ e ∈ chainEdges label ids, e.source ∈ ids ∧ e.target ∈ ids := by
  induction ids using chainEdges.induct with
  | case1 a b rest ih =>
    rw [chainEdges, List.forall_mem_cons]
    refine ⟨by simp, fun e mem => ?_⟩
    exact (ih e mem).imp (List.mem_cons_of_mem a) (List.mem_cons_of_mem a)
  | case2 ids short => simp [chainEdges]

/-- A statement names the ends of the edges that it draws. -/
theorem Statement.edges_ends {s : Statement} :
    ∀ e ∈ s.edges, e.source ∈ s.names ∧ e.target ∈ s.names := by
  cases s with
  | chain ids label => exact chainEdges_ends
  | _ => exact List.forall_mem_nil _

/-! ### Coherence -/

/-- Drafts whose diagram lacks nothing but perhaps nodes, and has all that was declared. -/
structure Draft.Coherent (draft : Draft) : Prop where
  distinct : draft.diagram.ids.Nodup
  ids : ∀ id ∈ draft.diagram.ids, isId id.toList = true
  labels : ∀ node ∈ draft.diagram.nodes, blankString node.label = false
  joined : ∀ e ∈ draft.diagram.edges, e.source ∈ draft.diagram.ids ∧ e.target ∈ draft.diagram.ids
  declared : draft.declared ⊆ draft.diagram.ids

/-- A coherent draft with nodes is a sound diagram. -/
theorem Draft.Coherent.sound {draft : Draft} (coherent : draft.Coherent)
    (inhabited : draft.diagram.nodes ≠ []) : draft.diagram.Sound where
  inhabited := inhabited
  named id mem := not_blank_of_isId (coherent.ids id mem)
  distinct := coherent.distinct
  joined := coherent.joined

/-- The check of a coherent draft finds nothing, except that there are no nodes. -/
theorem Draft.Coherent.check {draft : Draft} (coherent : draft.Coherent) :
    draft.diagram.check = if draft.diagram.nodes = [] then .error .empty else .ok () := by
  split
  · rename_i none
    rw [Diagram.check, none]
    rfl
  · rename_i some_nodes
    exact (check_eq_ok_iff draft.diagram).mpr (coherent.sound some_nodes)

/-- **Every draft into which lines have been entered is coherent.** -/
theorem Draft.coherent_of_addLines {number : Nat} {ls : List (List Char)} {draft : Draft}
    (entered : Draft.empty.addLines number ls = .ok draft) : draft.Coherent := by
  have none : Draft.empty.diagram.AllLabelled := List.forall_mem_nil _
  have labelled := Draft.addLines_labelled none entered
  obtain ⟨-, -, rfl⟩ := entered_iff.mp entered
  have ids : ∀ id ∈ (describe (statements ls)).ids, isId id.toList = true := fun id mem =>
    isId_of_names (mem_ids_describe.mp mem)
  constructor
  case distinct => exact ids_describe _ ▸ eraseDups_nodup _
  case ids => exact ids
  case labels =>
    intro node mem
    have named := not_blank_of_isId (ids node.id (List.mem_map_of_mem mem))
    exact (labelled node mem).not_blank named
  case joined =>
    intro e mem
    obtain ⟨s, among, drawn⟩ := List.mem_flatMap.mp mem
    have there : ∀ id ∈ s.names, id ∈ (describe (statements ls)).ids := fun id named =>
      mem_ids_describe.mpr (List.mem_flatMap.mpr ⟨s, among, named⟩)
    exact (Statement.edges_ends e drawn).imp (there _) (there _)
  case declared =>
    intro id mem
    exact mem_ids_describe.mpr (mem_names_of_declared (List.mem_reverse.mp mem))

/-! ### What a text of lines leads to -/

/-- The diagram of a draft that was made of all lines, unless it is empty. -/
theorem ofLines_of_entered {text : String} {draft : Draft}
    (entered : Draft.empty.addLines 1 (lines text.toList) = .ok draft) :
    ofLines text = if draft.diagram.nodes = [] then .error .empty else .ok draft.diagram := by
  rw [ofLines, entered]
  show (draft.diagram.check >>= fun _ => Except.ok draft.diagram) = _
  rw [(Draft.coherent_of_addLines entered).check]
  split <;> rfl

theorem ofLines_of_refused {text : String} {fault : Fault}
    (refused : Draft.empty.addLines 1 (lines text.toList) = .error fault) :
    ofLines text = .error fault := by
  rw [ofLines, refused]
  rfl

/-- A line is refused because it says nothing, or because it repeats a declaration. -/
theorem Draft.fault_of_addLine {draft : Draft} {number : Nat} {line : List Char} {fault : Fault}
    (refused : draft.addLine number line = .error fault) :
    (∃ place why, fault = .line place why) ∨ ∃ id, fault = .duplicateNode id := by
  unfold Draft.addLine at refused
  split at refused
  · cases refused
    exact .inl ⟨_, _, rfl⟩
  · rename_i s _
    cases s with
    | declaration node =>
      simp only [Draft.add] at refused
      split at refused <;> cases refused
      exact .inr ⟨_, rfl⟩
    | _ => cases refused

theorem Draft.fault_of_addLines {draft : Draft} {number : Nat} {ls : List (List Char)}
    {fault : Fault} (refused : draft.addLines number ls = .error fault) :
    (∃ place why, fault = .line place why) ∨ ∃ id, fault = .duplicateNode id := by
  induction ls generalizing draft number with
  | nil => cases refused
  | cons line ls ih =>
    rw [Draft.addLines] at refused
    cases entered : draft.addLine number line with
    | ok next =>
      rw [entered] at refused
      exact ih refused
    | error why =>
      rw [entered] at refused
      cases refused
      exact Draft.fault_of_addLine entered

/-- A text of lines is a diagram, or there is one of three faults. -/
theorem ofLines_cases (text : String) :
    (∃ d, ofLines text = .ok d) ∨ ofLines text = .error .empty ∨
      (∃ number fault, ofLines text = .error (.line number fault)) ∨
      ∃ id, ofLines text = .error (.duplicateNode id) := by
  cases entered : Draft.empty.addLines 1 (lines text.toList) with
  | ok draft =>
    rw [ofLines_of_entered entered]
    split
    · exact .inr (.inl rfl)
    · exact .inl ⟨_, rfl⟩
  | error fault =>
    rw [ofLines_of_refused entered]
    obtain ⟨number, why, rfl⟩ | ⟨id, rfl⟩ := Draft.fault_of_addLines entered
    · exact .inr (.inr (.inl ⟨number, why, rfl⟩))
    · exact .inr (.inr (.inr ⟨id, rfl⟩))

/-- A diagram that is described is without nodes if and only if nothing is named. -/
theorem nodes_describe_eq_nil_iff {ss : List Statement} :
    (describe ss).nodes = [] ↔ ∀ s ∈ ss, s.names = [] := by
  have no_names : names ss = [] ↔ ∀ s ∈ ss, s.names = [] := List.flatMap_eq_nil_iff
  rw [← no_names, describe, List.map_eq_nil_iff]
  cases names ss <;> simp [List.eraseDups_cons]

/-- A text of lines is empty if and only if they all say something, and none names a node. -/
theorem ofLines_eq_empty_iff (text : String) :
    ofLines text = .error .empty ↔
      ∀ line ∈ lines text.toList, ∃ s, Statement.ofLine line = .ok s ∧ s.names = [] := by
  constructor
  · intro empty line mem
    cases entered : Draft.empty.addLines 1 (lines text.toList) with
    | error fault =>
      rw [ofLines_of_refused entered] at empty
      cases empty
      obtain ⟨_, _, other⟩ | ⟨_, other⟩ := Draft.fault_of_addLines entered <;> cases other
    | ok draft =>
      rw [ofLines_of_entered entered] at empty
      obtain ⟨readable, -, rfl⟩ := entered_iff.mp entered
      split at empty
      · rename_i none
        obtain ⟨s, said⟩ := readable line mem
        exact ⟨s, said, nodes_describe_eq_nil_iff.mp none s (mem_statements.mpr ⟨line, mem, said⟩)⟩
      · cases empty
  · intro quiet
    have readable : Readable (lines text.toList) := fun line mem =>
      (quiet line mem).imp fun _ said => said.1
    have none : ∀ s ∈ statements (lines text.toList), s.names = [] := by
      intro s among
      obtain ⟨line, mem, said⟩ := mem_statements.mp among
      obtain ⟨other, said', nothing⟩ := quiet line mem
      rw [said] at said'
      rwa [Except.ok.inj said']
    have undeclared : declaredIds (statements (lines text.toList)) = [] := by
      rw [List.eq_nil_iff_forall_not_mem]
      intro id mem
      have named : names (statements (lines text.toList)) = [] := List.flatMap_eq_nil_iff.mpr none
      exact List.not_mem_nil (named ▸ mem_names_of_declared mem)
    have entered := Draft.addLines_eq_ok readable (undeclared ▸ List.nodup_nil) 1
    have nodeless : (Draft.of (statements (lines text.toList))).diagram.nodes = [] :=
      nodes_describe_eq_nil_iff.mpr none
    rw [ofLines_of_entered entered, if_pos nodeless]

/-! ### Ids that are declared twice -/

/-- Whether a line declares the node of an id. -/
def declares (id : String) (line : List Char) : Bool :=
  match Statement.ofLine line with
  | .ok (.declaration node) => node.id == id
  | _ => false

/-- As many lines declare an id as there are declarations of it. -/
theorem countP_declares (id : String) (ls : List (List Char)) :
    ls.countP (declares id) = (declaredIds (statements ls)).count id := by
  induction ls with
  | nil => rfl
  | cons line ls ih =>
    rw [List.countP_cons, ih, declares]
    cases said : Statement.ofLine line with
    | error fault =>
      have skipped : statements (line :: ls) = statements ls :=
        List.filterMap_cons_none (by rw [said]; rfl)
      rw [skipped]
      rfl
    | ok s =>
      rw [statements_cons said]
      cases s with
      | declaration node => exact List.count_cons.symm
      | _ => rfl

/-- Where every line says something, the one offence is that two lines declare one id. -/
theorem ofLines_of_readable {text : String} (readable : Readable (lines text.toList)) :
    ((∀ id, (lines text.toList).countP (declares id) ≤ 1) ∧
        ∀ id, ofLines text ≠ .error (.duplicateNode id)) ∨
      ∃ id, ofLines text = .error (.duplicateNode id) ∧
        2 ≤ (lines text.toList).countP (declares id) := by
  simp only [countP_declares]
  by_cases distinct : (declaredIds (statements (lines text.toList))).Nodup
  · refine .inl ⟨List.nodup_iff_count_le_one.mp distinct, fun id repeated => ?_⟩
    have entered := Draft.addLines_eq_ok readable distinct 1
    rw [ofLines_of_entered entered] at repeated
    split at repeated <;> cases repeated
  · obtain ⟨id, refused, twice⟩ := addAll_eq_error distinct
    rw [← Draft.addLines_eq_addAll readable Draft.empty 1] at refused
    exact .inr ⟨id, ofLines_of_refused refused, twice⟩

/--
**What lines lead to, whatever they are.**

A draft into which lines have been entered is always coherent.  A text of lines is a
diagram, or it is empty, or a line says nothing, or an id is declared twice, and there is no
other fault.  It is empty if and only if every line says something and none names a node.
And where every line says something, an id is said to be declared twice if and only if two
lines declare one, no matter how many edges name it; and it is such an id that is named.
-/
theorem drafts_coherent :
    (∀ (number : Nat) (ls : List (List Char)) (draft : Draft),
      Draft.empty.addLines number ls = .ok draft → draft.Coherent) ∧
    ∀ text : String,
      ((∃ d, ofLines text = .ok d) ∨ ofLines text = .error .empty ∨
        (∃ number fault, ofLines text = .error (.line number fault)) ∨
        ∃ id, ofLines text = .error (.duplicateNode id)) ∧
      (ofLines text = .error .empty ↔
        ∀ line ∈ lines text.toList, ∃ s, Statement.ofLine line = .ok s ∧ s.names = []) ∧
      (Readable (lines text.toList) →
        ((∃ id, ofLines text = .error (.duplicateNode id)) ↔
          ∃ id, 2 ≤ (lines text.toList).countP (declares id)) ∧
        ∀ id, ofLines text = .error (.duplicateNode id) →
          2 ≤ (lines text.toList).countP (declares id)) := by
  refine ⟨fun number ls draft => Draft.coherent_of_addLines, fun text => ⟨?_, ?_, ?_⟩⟩
  · exact ofLines_cases text
  · exact ofLines_eq_empty_iff text
  · intro readable
    obtain ⟨once, never⟩ | ⟨id, repeated, twice⟩ := ofLines_of_readable readable
    · refine ⟨iff_of_false (fun ⟨id, repeated⟩ => never id repeated) fun ⟨id, twice⟩ => ?_, ?_⟩
      · have := once id
        omega
      · exact fun id repeated => absurd repeated (never id)
    · refine ⟨iff_of_true ⟨id, repeated⟩ ⟨id, twice⟩, fun other repeated' => ?_⟩
      rw [repeated] at repeated'
      cases repeated'
      exact twice

/-- A text in which edges and two declarations name one id. -/
def twiceDeclared : String := "a [One]\na -> b -> a\n\na ((Two))"

theorem drafts_coherent_twiceDeclared :
    (∃ draft, Draft.empty.addLines 1 ((lines twiceDeclared.toList).take 3) = .ok draft ∧
        draft.declared = ["a"] ∧ draft.diagram.ids = ["a", "b"] ∧ draft.Coherent) ∧
      Readable (lines twiceDeclared.toList) ∧
      2 ≤ (lines twiceDeclared.toList).countP (declares "a") ∧
      ∃ id, ofLines twiceDeclared = .error (.duplicateNode id) := by
  have readable_above : Readable ((lines twiceDeclared.toList).take 3) := by decide +kernel
  have entered := Draft.addLines_eq_ok readable_above (by decide +kernel) 1
  have readable : Readable (lines twiceDeclared.toList) := by decide +kernel
  have twice : 2 ≤ (lines twiceDeclared.toList).countP (declares "a") := by decide +kernel
  refine ⟨⟨_, entered, by decide +kernel, by decide +kernel, ?_⟩, readable, twice, ?_⟩
  · exact drafts_coherent.1 1 _ _ entered
  · exact ((drafts_coherent.2 twiceDeclared).2.2 readable).1.mpr ⟨"a", twice⟩

end Draftsman.Diagram
