/-
What statements mean together.

A draft is made by entering statements one by one, and what one of them does depends on
those before it: a node is new or has been mentioned, and an id has been declared or not.
What they mean together can be said without that (`describe`): the last title and the last
direction hold, every id that is named has a node, which is the one that is declared for it
or else a plain one, and the edges are those of all statements in their order.  Entering
statements leads to nothing else, as long as no id is declared twice (`entered_iff`).
-/
import Mathlib.Data.List.Induction
import Mathlib.Data.List.Nodup
import Draftsman.Proofs.Diagram.Picture
import Draftsman.Proofs.Diagram.Statement

namespace Draftsman.Diagram

/-! ### What a statement says -/

namespace Statement

/-- The ids that a statement names, in their order. -/
def names : Statement → List String
  | .declaration node => [node.id]
  | .chain ids _ => ids
  | _ => []

/-- The node that a statement declares. -/
def node? : Statement → Option Node
  | .declaration node => some node
  | _ => none

/-- The edges that a statement draws. -/
def edges : Statement → List Edge
  | .chain ids label => chainEdges label ids
  | _ => []

/-- The title that a statement sets; it may be that there is to be none. -/
def title? : Statement → Option (Option String)
  | .title text => some text
  | _ => none

/-- The direction that a statement sets. -/
def direction? : Statement → Option Direction
  | .direction way => some way
  | _ => none

end Statement

/-! ### What statements say together -/

/-- All ids that statements name, in their order. -/
def names (ss : List Statement) : List String := ss.flatMap Statement.names

/-- All nodes that statements declare, in their order. -/
def declarations (ss : List Statement) : List Node := ss.filterMap Statement.node?

/-- The ids that statements declare, in their order. -/
def declaredIds (ss : List Statement) : List String := (declarations ss).map Node.id

/-- The node of an id: the one that is declared for it, or else a plain one. -/
def nodeOf (declared : List Node) (id : String) : Node :=
  (declared.find? fun node => node.id == id).getD (.plain id)

/-- The diagram that statements describe. -/
def describe (ss : List Statement) : Diagram where
  title := (ss.filterMap Statement.title?).getLast?.getD none
  direction := (ss.filterMap Statement.direction?).getLast?.getD .topBottom
  nodes := (names ss).eraseDups.map (nodeOf (declarations ss))
  edges := ss.flatMap Statement.edges

/-- The draft into which statements have been entered. -/
def Draft.of (ss : List Statement) : Draft := ⟨describe ss, (declaredIds ss).reverse⟩

section Concat

variable (ss : List Statement) (s : Statement)

theorem names_concat : names (ss ++ [s]) = names ss ++ s.names := by
  simp [names]

theorem declarations_concat : declarations (ss ++ [s]) = declarations ss ++ s.node?.toList := by
  cases said : s.node? <;> simp [declarations, said]

theorem declaredIds_concat :
    declaredIds (ss ++ [s]) = declaredIds ss ++ (s.node?.map Node.id).toList := by
  rw [declaredIds, declarations_concat, List.map_append, ← declaredIds]
  cases s.node? <;> rfl

/-- One more statement changes what it speaks of. -/
theorem describe_concat : describe (ss ++ [s]) =
    { title := s.title?.getD (describe ss).title
      direction := s.direction?.getD (describe ss).direction
      nodes := (names ss ++ s.names).eraseDups.map (nodeOf (declarations ss ++ s.node?.toList))
      edges := (describe ss).edges ++ s.edges } := by
  rw [describe, names_concat, declarations_concat]
  simp only [List.filterMap_append, List.getLast?_append, List.flatMap_append, describe]
  congr 1
  · cases said : s.title? <;> simp [said]
  · cases said : s.direction? <;> simp [said]
  · simp

end Concat

/-- What is declared is named. -/
theorem mem_names_of_declared {ss : List Statement} {id : String} (mem : id ∈ declaredIds ss) :
    id ∈ names ss := by
  obtain ⟨node, declared, rfl⟩ := List.mem_map.mp mem
  obtain ⟨s, said, same⟩ := List.mem_filterMap.mp declared
  refine List.mem_flatMap.mpr ⟨s, said, ?_⟩
  cases s with
  | declaration other =>
    cases same
    exact List.mem_singleton_self _
  | _ => cases same

/-! ### Names without their repetitions -/

section Names

variable {α : Type} [DecidableEq α]

/-- A thing that comes again is not new. -/
theorem eraseDups_concat (xs : List α) (x : α) :
    (xs ++ [x]).eraseDups = if x ∈ xs then xs.eraseDups else xs.eraseDups ++ [x] := by
  rw [List.eraseDups_append]
  by_cases old : x ∈ xs <;> simp [List.removeAll, List.eraseDups_cons, old]

theorem eraseDups_nodup (xs : List α) : xs.eraseDups.Nodup := by
  induction xs using List.reverseRecOn with
  | nil => exact List.nodup_nil
  | append_singleton xs x ih =>
    rw [eraseDups_concat]
    split
    · exact ih
    · rename_i new
      rw [← List.mem_eraseDups] at new
      exact ih.append (List.nodup_singleton x) (List.disjoint_singleton.mpr new)

end Names

/-! ### Nodes of ids -/

section NodeOf

variable {declared : List Node} {node : Node} {id : String}

@[simp]
theorem nodeOf_id (declared : List Node) (id : String) : (nodeOf declared id).id = id := by
  unfold nodeOf
  cases found : declared.find? fun node => node.id == id with
  | none => rfl
  | some node => simpa using List.find?_some found

theorem nodeOf_eq_plain (none : id ∉ declared.map Node.id) : nodeOf declared id = .plain id := by
  have absent : (declared.find? fun node => node.id == id) = .none := by
    rw [List.find?_eq_none]
    intro node mem same
    exact none (beq_iff_eq.mp same ▸ List.mem_map_of_mem mem)
  rw [nodeOf, absent]
  rfl

/-- Where no id is declared twice, the node of an id is the one that is declared for it. -/
theorem nodeOf_eq_of_mem (distinct : (declared.map Node.id).Nodup) (mem : node ∈ declared) :
    nodeOf declared node.id = node := by
  unfold nodeOf
  cases found : declared.find? fun other => other.id == node.id with
  | none => exact absurd (beq_self_eq_true node.id) (List.find?_eq_none.mp found node mem)
  | some other =>
    have same : other.id = node.id := by simpa using List.find?_some found
    exact List.inj_on_of_nodup_map distinct (List.mem_of_find?_eq_some found) mem same

theorem nodeOf_concat_self (new : node.id ∉ declared.map Node.id) :
    nodeOf (declared ++ [node]) node.id = node := by
  have absent : (declared.find? fun other => other.id == node.id) = none := by
    rw [List.find?_eq_none]
    intro other mem same
    exact new (beq_iff_eq.mp same ▸ List.mem_map_of_mem mem)
  rw [nodeOf, List.find?_append, absent]
  simp

theorem nodeOf_concat_of_ne (other : node.id ≠ id) :
    nodeOf (declared ++ [node]) id = nodeOf declared id := by
  have skipped : List.find? (fun node => node.id == id) [node] = none := by simp [other]
  rw [nodeOf, List.find?_append, skipped, Option.or_none, ← nodeOf]

end NodeOf

/-- Nodes of ids have these ids. -/
theorem ids_of_nodes {d : Diagram} {named : List String} {declared : List Node}
    (nodes : d.nodes = named.map (nodeOf declared)) : d.ids = named := by
  rw [ids, nodes, List.map_map]
  exact (List.map_congr_left fun id _ => nodeOf_id declared id).trans (List.map_id named)

/-- The nodes of a diagram that is described have the ids that are named. -/
theorem ids_describe (ss : List Statement) : (describe ss).ids = (names ss).eraseDups :=
  ids_of_nodes rfl

theorem mem_ids_describe {ss : List Statement} {id : String} :
    id ∈ (describe ss).ids ↔ id ∈ names ss := by
  rw [ids_describe, List.mem_eraseDups]

/-! ### Mentions -/

/-- A mention leaves everything but the nodes as it is. -/
theorem mention_eq (d : Diagram) (id : String) :
    d.mention id = { d with nodes := (d.mention id).nodes } := by
  unfold mention
  split <;> rfl

/-- A mention of an id gives it a plain node, unless it has one. -/
theorem mention_nodes {declared : List Node} {named : List String}
    (known : ∀ id ∈ declared.map Node.id, id ∈ named) {d : Diagram}
    (nodes : d.nodes = named.eraseDups.map (nodeOf declared)) (id : String) :
    (d.mention id).nodes = (named ++ [id]).eraseDups.map (nodeOf declared) := by
  have all := ids_of_nodes nodes
  rw [eraseDups_concat]
  by_cases old : id ∈ named
  · have there : id ∈ d.ids := by rwa [all, List.mem_eraseDups]
    rw [if_pos old, mention_eq_self there, nodes]
  · have new : id ∉ d.ids := by rwa [all, List.mem_eraseDups]
    have plain : nodeOf declared id = .plain id := nodeOf_eq_plain fun mem => old (known id mem)
    rw [if_neg old, mention, indexOf?_eq_none new, List.map_append, List.map_singleton, plain,
      ← nodes]

/-- Mentions of ids give each of them a plain node that has none. -/
theorem foldl_mention_eq {declared : List Node} {named : List String}
    (known : ∀ id ∈ declared.map Node.id, id ∈ named) {d : Diagram}
    (nodes : d.nodes = named.eraseDups.map (nodeOf declared)) (ids : List String) :
    ids.foldl mention d
      = { d with nodes := (named ++ ids).eraseDups.map (nodeOf declared) } := by
  induction ids generalizing d named with
  | nil => rw [List.foldl_nil, List.append_nil, ← nodes]
  | cons id ids ih =>
    have known' : ∀ other ∈ declared.map Node.id, other ∈ named ++ [id] := fun other mem =>
      List.mem_append_left _ (known other mem)
    rw [List.foldl_cons, ih known' (mention_nodes known nodes id), mention_eq, List.append_assoc]
    rfl

/-! ### Declarations -/

/-- A declaration takes the place of the node with its id. -/
theorem place_eq_map {d : Diagram} (distinct : d.ids.Nodup) {node : Node}
    (there : node.id ∈ d.ids) : d.place node =
      { d with nodes := d.nodes.map fun other => if other.id = node.id then node else other } := by
  obtain ⟨i, here⟩ := List.mem_iff_getElem?.mp there
  have index := (indexOf?_eq_some_iff distinct node.id i).mpr here
  have set : d.nodes.set i node
      = d.nodes.map fun other => if other.id = node.id then node else other := by
    refine List.ext_getElem (by simp) fun j inside bound => ?_
    rw [List.length_set] at inside
    have id_at : d.ids[j]? = some d.nodes[j].id := by simp [ids, inside]
    rw [List.getElem_set, List.getElem_map]
    -- Since ids are distinct, the node in the place has the id, and no other node has it.
    by_cases same : i = j
    · subst same
      rw [id_at] at here
      rw [if_pos rfl, if_pos (Option.some.inj here)]
    · have other : d.nodes[j].id ≠ node.id := by
        intro again
        rw [again, ← here] at id_at
        have inside' : j < d.ids.length := by simpa [ids] using inside
        exact same ((List.getElem?_inj inside' distinct).mp id_at).symm
      rw [if_neg same, if_neg other]
  rw [place, index]
  simp only [set]

/-- The first declaration of an id is its node from then on. -/
theorem place_nodes {declared : List Node} {named : List String} {d : Diagram}
    (nodes : d.nodes = named.eraseDups.map (nodeOf declared)) {node : Node}
    (new : node.id ∉ declared.map Node.id) :
    d.place node
      = { d with nodes := (named ++ [node.id]).eraseDups.map (nodeOf (declared ++ [node])) } := by
  have all := ids_of_nodes nodes
  rw [eraseDups_concat]
  by_cases old : node.id ∈ named
  · have there : node.id ∈ d.ids := by rwa [all, List.mem_eraseDups]
    rw [place_eq_map (all ▸ eraseDups_nodup named) there, if_pos old, nodes, List.map_map]
    congr 1
    refine List.map_congr_left fun id _ => ?_
    by_cases same : id = node.id
    · rw [same, nodeOf_concat_self new]
      simp
    · rw [nodeOf_concat_of_ne (Ne.symm same)]
      simp [same]
  · have absent : node.id ∉ d.ids := by rwa [all, List.mem_eraseDups]
    have others : named.eraseDups.map (nodeOf (declared ++ [node])) = d.nodes := by
      rw [nodes]
      refine List.map_congr_left fun id mem => nodeOf_concat_of_ne ?_
      rintro rfl
      exact old (List.mem_eraseDups.mp mem)
    rw [if_neg old, place, indexOf?_eq_none absent, List.map_append, List.map_singleton,
      nodeOf_concat_self new, others]

/-! ### Entering statements -/

/-- A statement is entered, unless it declares an id that has been declared. -/
theorem Draft.add_of {ss : List Statement} {s : Statement}
    (new : ∀ node ∈ s.node?, node.id ∉ declaredIds ss) :
    (Draft.of ss).add s = .ok (.of (ss ++ [s])) := by
  have known : ∀ id ∈ declaredIds ss, id ∈ names ss := fun id mem => mem_names_of_declared mem
  have nodes : (describe ss).nodes = (names ss).eraseDups.map (nodeOf (declarations ss)) := rfl
  rw [Draft.of, Draft.of, describe_concat, declaredIds_concat]
  cases s
  all_goals simp only [Draft.add, Statement.names, Statement.node?, Statement.edges,
    Statement.title?, Statement.direction?, Option.getD_none, Option.getD_some, List.append_nil]
  case nothing => simp [← nodes]
  case title text => simp [← nodes]
  case direction way => simp [← nodes]
  case declaration node =>
    have fresh : node.id ∉ declaredIds ss := new node rfl
    simp [fresh, place_nodes nodes fresh]
  case chain ids label => simp [foldl_mention_eq known nodes ids]

/-- A second declaration of an id is an offence. -/
theorem Draft.add_of_declared {ss : List Statement} {node : Node}
    (old : node.id ∈ declaredIds ss) :
    (Draft.of ss).add (.declaration node) = .error (.duplicateNode node.id) := by
  rw [Draft.add, Draft.of, if_pos (List.mem_reverse.mpr old)]

/-- Enters statements one after the other. -/
def Draft.addAll (draft : Draft) (ss : List Statement) : Except Fault Draft :=
  ss.foldlM Draft.add draft

theorem Draft.addAll_concat (draft : Draft) (ss : List Statement) (s : Statement) :
    draft.addAll (ss ++ [s]) = draft.addAll ss >>= fun next => next.add s := by
  simp [Draft.addAll]

/-- Statements that declare no id twice lead to what they describe. -/
theorem addAll_eq_ok {ss : List Statement} (distinct : (declaredIds ss).Nodup) :
    Draft.empty.addAll ss = .ok (.of ss) := by
  induction ss using List.reverseRecOn with
  | nil => rfl
  | append_singleton ss s ih =>
    rw [declaredIds_concat, List.nodup_append'] at distinct
    obtain ⟨before, -, apart⟩ := distinct
    have new : ∀ node ∈ s.node?, node.id ∉ declaredIds ss := by
      intro node said old
      rw [said] at apart
      exact apart old (List.mem_singleton_self _)
    rw [Draft.addAll_concat, ih before]
    exact Draft.add_of new

/-- Statements that declare an id twice are refused, and such an id is named. -/
theorem addAll_eq_error {ss : List Statement} (repeats : ¬ (declaredIds ss).Nodup) :
    ∃ id, Draft.empty.addAll ss = .error (.duplicateNode id) ∧ 2 ≤ (declaredIds ss).count id := by
  induction ss using List.reverseRecOn with
  | nil => exact absurd List.nodup_nil repeats
  | append_singleton ss s ih =>
    rw [declaredIds_concat] at repeats ⊢
    -- Either the last statement is the one that repeats a declaration, or one before it was.
    by_cases distinct : (declaredIds ss).Nodup
    · cases said : s.node? with
      | none => simp [said, distinct] at repeats
      | some node =>
        obtain rfl : s = .declaration node := by
          cases s <;> simp [Statement.node?] at said
          rw [said]
        have old : node.id ∈ declaredIds ss := by
          by_contra new
          exact repeats (distinct.append (List.nodup_singleton _) (by simpa [said] using new))
        refine ⟨node.id, ?_, ?_⟩
        · rw [Draft.addAll_concat, addAll_eq_ok distinct]
          exact Draft.add_of_declared old
        · have once := List.count_pos_iff.mpr old
          simp only [Option.map_some, Option.toList_some, List.count_append,
            List.count_singleton_self]
          omega
    · obtain ⟨id, failed, twice⟩ := ih distinct
      refine ⟨id, ?_, ?_⟩
      · rw [Draft.addAll_concat, failed]
        rfl
      · rw [List.count_append]
        omega

/-! ### Entering lines -/

/-- Lines that all say something. -/
def Readable (ls : List (List Char)) : Prop := ∀ line ∈ ls, ∃ s, Statement.ofLine line = .ok s

instance (ls : List (List Char)) : Decidable (Readable ls) :=
  decidable_of_iff (∀ line ∈ ls, (Statement.ofLine line).toOption.isSome = true)
    (forall₂_congr fun line _ => by cases Statement.ofLine line <;> simp [Except.toOption])

/-- What lines say, as far as they say something. -/
def statements (ls : List (List Char)) : List Statement :=
  ls.filterMap fun line => (Statement.ofLine line).toOption

theorem statements_cons {line : List Char} {s : Statement} (said : Statement.ofLine line = .ok s)
    (ls : List (List Char)) : statements (line :: ls) = s :: statements ls :=
  List.filterMap_cons_some (by rw [said]; rfl)

theorem mem_statements {ls : List (List Char)} {s : Statement} :
    s ∈ statements ls ↔ ∃ line ∈ ls, Statement.ofLine line = .ok s := by
  rw [statements, List.mem_filterMap]
  refine exists_congr fun line => and_congr_right fun _ => ?_
  cases Statement.ofLine line <;> simp [Except.toOption]

/-- Entering lines is entering what they say. -/
theorem Draft.addLines_eq_addAll {ls : List (List Char)} (readable : Readable ls) (draft : Draft)
    (number : Nat) : draft.addLines number ls = draft.addAll (statements ls) := by
  induction ls generalizing draft number with
  | nil => rfl
  | cons line ls ih =>
    rw [Readable, List.forall_mem_cons] at readable
    obtain ⟨⟨s, said⟩, others⟩ := readable
    have entered : draft.addLine number line = draft.add s := by rw [Draft.addLine, said]
    rw [Draft.addLines, entered, statements_cons said, Draft.addAll, List.foldlM_cons]
    exact bind_congr fun next => ih others next (number + 1)

theorem Draft.readable_of_addLines {draft next : Draft} {number : Nat} {ls : List (List Char)}
    (entered : draft.addLines number ls = .ok next) : Readable ls := by
  induction ls generalizing draft number with
  | nil => exact List.forall_mem_nil _
  | cons line ls ih =>
    obtain ⟨between, first, others⟩ := (Json.bind_eq_ok_iff _ _ _).mp entered
    refine List.forall_mem_cons.mpr ⟨?_, ih others⟩
    unfold Draft.addLine at first
    split at first
    · cases first
    · rename_i s said
      exact ⟨s, said⟩

/-- Lines that all say something, and declare no id twice, can be entered. -/
theorem Draft.addLines_eq_ok {ls : List (List Char)} (readable : Readable ls)
    (distinct : (declaredIds (statements ls)).Nodup) (number : Nat) :
    Draft.empty.addLines number ls = .ok (.of (statements ls)) := by
  rw [Draft.addLines_eq_addAll readable, addAll_eq_ok distinct]

/--
**Entering lines leads to what they describe.**  It succeeds if and only if every line says
something and no id is declared twice.
-/
theorem entered_iff {number : Nat} {ls : List (List Char)} {draft : Draft} :
    Draft.empty.addLines number ls = .ok draft ↔
      Readable ls ∧ (declaredIds (statements ls)).Nodup ∧ .of (statements ls) = draft := by
  constructor
  · intro entered
    have readable := Draft.readable_of_addLines entered
    rw [Draft.addLines_eq_addAll readable] at entered
    by_cases distinct : (declaredIds (statements ls)).Nodup
    · rw [addAll_eq_ok distinct] at entered
      exact ⟨readable, distinct, Except.ok.inj entered⟩
    · obtain ⟨id, failed, -⟩ := addAll_eq_error distinct
      rw [failed] at entered
      cases entered
  · rintro ⟨readable, distinct, rfl⟩
    exact Draft.addLines_eq_ok readable distinct number

end Draftsman.Diagram
