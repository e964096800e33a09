/-
What a reader of a document sees of the diagram.

The document that shows a diagram is read token by token.  `marks` keeps, in the order of
the document, the elements that have a class and the texts, and so finds again the title,
each edge with its label, and each node with its id and its label.  Which tags there are,
and with which attributes, does not depend on any of the diagram's texts: diagrams that
are `Alike` have documents with the same tags.
-/
import Draftsman.Diagram.Svg
import Draftsman.Proofs.Diagram.Picture
import Draftsman.Proofs.Diagram.Read
import Draftsman.Proofs.Markup.Document
import Draftsman.Proofs.Number.Places

namespace Draftsman.Diagram

open Draftsman.Markup

/-! ### What a reader keeps -/

/-- What a reader keeps of a document. -/
inductive Mark where
  | title (text : String)
  /-- An edge: the name of its element, and whether it is dashed. -/
  | edge (element : String) (dashed : Bool)
  /-- The ground under the label of an edge. -/
  | ground
  | node (id : String)
  /-- A text that is no title. -/
  | text (content : String)
  /-- Any other element that has a class. -/
  | other (element kind : String)
  deriving DecidableEq, Repr

/-- The text before the next tag. -/
def content : List Token → List Char
  | .char c :: rest => c :: content rest
  | _ => []

/-- What is kept of a tag that opens an element, given what is behind it. -/
def mark? (name : String) (attributes : List Attribute) (behind : List Token) : Option Mark :=
  match attributes.lookup "class", name with
  | some "title", "text" => some (.title (String.ofList (content behind)))
  | some "edge", name => some (.edge name (attributes.lookup "stroke-dasharray").isSome)
  | some "edge-label", "rect" => some .ground
  | some "node", "g" => (attributes.lookup "data-id").map .node
  | some kind, name => some (.other name kind)
  | none, "text" => some (.text (String.ofList (content behind)))
  | none, _ => none

/-- What is kept of the tokens of a document. -/
def marks : List Token → List Mark
  | [] => []
  | .opening name attributes :: rest => (mark? name attributes rest).toList ++ marks rest
  | .void name attributes :: rest => (mark? name attributes rest).toList ++ marks rest
  | .char _ :: rest => marks rest
  | .closing _ :: rest => marks rest

/-- The tags among the tokens, without the values of their attributes. -/
def bareTags : List Token → List Token
  | [] => []
  | .char _ :: rest => bareTags rest
  | .opening name attributes :: rest =>
    .opening name (attributes.map fun a => (a.1, "")) :: bareTags rest
  | .closing name :: rest => .closing name :: bareTags rest
  | .void name attributes :: rest =>
    .void name (attributes.map fun a => (a.1, "")) :: bareTags rest

/-- What there is to be kept of an edge. -/
def Edge.marks (e : Edge) (back : Bool) : List Mark :=
  .edge (if e.source = e.target then "path" else "line") back ::
    match e.label with
    | some text => [.ground, .text text]
    | none => []

/-- What there is to be kept of a node. -/
def Node.marks (node : Node) : List Mark := [.node node.id, .text node.label]

/-- What there is to be kept of a diagram whose edges are set aside as `back` says. -/
def marksOf (d : Diagram) (back : List Bool) : List Mark :=
  (d.title.map Mark.title).toList ++
    .other "g" "edges" :: (d.edges.zipIdx.flatMap fun x => x.1.marks (back.getD x.2 false)) ++
      .other "g" "nodes" :: d.nodes.flatMap Node.marks

/-! ### Reading tokens -/

@[simp] theorem content_textTokens (text : List Char) (name : String) (rest : List Token) :
    content (textTokens text ++ .closing name :: rest) = text := by
  induction text with
  | nil => rfl
  | cons c text ih => exact congrArg (c :: ·) ih

@[simp] theorem marks_textTokens (text : List Char) (rest : List Token) :
    marks (textTokens text ++ rest) = marks rest := by
  induction text with
  | nil => rfl
  | cons c text ih => exact ih

@[simp] theorem bareTags_append (a b : List Token) :
    bareTags (a ++ b) = bareTags a ++ bareTags b := by
  induction a with
  | nil => rfl
  | cons t a ih => cases t <;> simp [bareTags, ih]

@[simp] theorem bareTags_textTokens (text : List Char) : bareTags (textTokens text) = [] := by
  induction text with
  | nil => rfl
  | cons c text ih => exact ih

@[simp] theorem bareTags_lineTokens (depth : Nat) (tokens : List Token) :
    bareTags (lineTokens depth tokens) = bareTags tokens := by
  simp [lineTokens, indentation, bareTags]

/-! ### Marks -/

/-- What is kept of a stroke, given what it shows. -/
def marksShown : Bool × Bool × Option String → List Mark
  | (loop, dashed, label) =>
    .edge (if loop then "path" else "line") dashed ::
      match label with
      | some text => [.ground, .text text]
      | none => []

theorem Edge.marks_eq (e : Edge) (back : Bool) : e.marks back = marksShown (e.shown back) := by
  simp [Edge.marks, marksShown, Edge.shown]

theorem marks_stroke (s : Stroke Float) (rest : List Token) :
    marks (tokensOf 2 (strokeElements s) ++ rest) = marksShown s.shown ++ marks rest := by
  obtain ⟨route, dashed, label⟩ := s
  cases route <;> cases dashed <;> cases label <;>
    simp [strokeElements, routeElement, labelElements, dashes, arrowed, centredAt, Element.tokens,
      tokensOf, lineTokens, indentation, marks, mark?, List.lookup_cons, Stroke.shown, Route.isLoop,
      marksShown]

theorem marks_strokes (strokes : List (Stroke Float)) (rest : List Token) :
    marks (tokensOf 2 (strokes.flatMap strokeElements) ++ rest)
      = (strokes.map Stroke.shown).flatMap marksShown ++ marks rest := by
  induction strokes with
  | nil => rfl
  | cons s strokes ih =>
    rw [List.flatMap_cons, tokensOf_append, List.append_assoc, marks_stroke, ih]
    simp

theorem marks_figure (f : Figure Float) (rest : List Token) :
    marks ((figureElement f).tokens 2 ++ rest) = f.node.marks ++ marks rest := by
  obtain ⟨⟨id, label, shape⟩, placement⟩ := f
  cases shape <;>
    simp [figureElement, outlineElement, boxAttributes, outlineStyle, centredAt, Element.tokens,
      tokensOf, lineTokens, indentation, marks, mark?, List.lookup_cons, Node.marks]

theorem marks_figures (figures : List (Figure Float)) (rest : List Token) :
    marks (tokensOf 2 (figures.map figureElement) ++ rest)
      = (figures.map Figure.node).flatMap Node.marks ++ marks rest := by
  induction figures with
  | nil => rfl
  | cons f figures ih =>
    rw [List.map_cons, tokensOf, List.append_assoc, marks_figure, ih]
    simp

theorem marks_title (title : Option (Caption Float)) (rest : List Token) :
    marks (tokensOf 1 (title.map titleElement).toList ++ rest)
      = ((title.map Caption.text).map Mark.title).toList ++ marks rest := by
  cases title <;>
    simp [titleElement, centredAt, Element.tokens, tokensOf, lineTokens, indentation, marks, mark?]

/-- What is kept of the document that shows a picture. -/
theorem marks_picture (p : Picture Float) :
    marks (p.element.tokens 0)
      = ((p.title.map Caption.text).map Mark.title).toList ++
        .other "g" "edges" :: (p.strokes.map Stroke.shown).flatMap marksShown ++
          .other "g" "nodes" :: (p.figures.map Figure.node).flatMap Node.marks := by
  have title := marks_title p.title
  have strokes := marks_strokes p.strokes
  have figures := marks_figures p.figures
  simp [Picture.element, canvasAttributes, arrowHead, background, Element.tokens,
    Element.inlineTokens, inlineTokensOf, tokensOf, tokensOf_append, lineTokens, indentation, marks,
    mark?, List.lookup_cons, title, strokes, figures]

/-! ### Proper tags -/

theorem proper_stroke (s : Stroke Float) : AllProper (tokensOf 2 (strokeElements s)) := by
  obtain ⟨route, dashed, label⟩ := s
  cases route <;> cases dashed <;> cases label <;>
    simp +decide [strokeElements, routeElement, labelElements, dashes, arrowed, centredAt,
      Element.tokens, tokensOf]

theorem proper_figure (f : Figure Float) : AllProper ((figureElement f).tokens 2) := by
  obtain ⟨⟨id, label, shape⟩, placement⟩ := f
  cases shape <;>
    simp +decide [figureElement, outlineElement, boxAttributes, outlineStyle, centredAt,
      Element.tokens, tokensOf]

theorem proper_picture (p : Picture Float) : AllProper (p.element.tokens 0) := by
  have strokes : AllProper (tokensOf 2 (p.strokes.flatMap strokeElements)) := by
    induction p.strokes with
    | nil => exact allProper_nil
    | cons s strokes ih =>
      rw [List.flatMap_cons, tokensOf_append, allProper_append]
      exact ⟨proper_stroke s, ih⟩
  have figures : AllProper (tokensOf 2 (p.figures.map figureElement)) := by
    induction p.figures with
    | nil => exact allProper_nil
    | cons f figures ih =>
      rw [List.map_cons, tokensOf, allProper_append]
      exact ⟨proper_figure f, ih⟩
  have title : AllProper (tokensOf 1 (p.title.map titleElement).toList) := by
    cases p.title <;> simp +decide [titleElement, centredAt, Element.tokens, tokensOf]
  simp +decide [Picture.element, canvasAttributes, arrowHead, background, Element.tokens,
    Element.inlineTokens, inlineTokensOf, tokensOf, tokensOf_append, title, strokes, figures]

/-! ### Bare tags

The tags of a document do not depend on texts and lengths, so they are those of a document
without texts in which everything lies in one place.
-/

/-- An empty text. -/
def blankCaption : Caption Float := ⟨⟨0, 0⟩, ""⟩

/-- A stroke of a kind. -/
def blankStroke : Bool × Bool × Bool → Stroke Float
  | (loop, dashed, labelled) =>
    { route := if loop then .loop 0 0 0 0 else .line ⟨0, 0⟩ ⟨0, 0⟩
      dashed
      label := if labelled then some blankCaption else none }

/-- A figure of a shape. -/
def blankFigure (shape : Shape) : Figure Float := ⟨⟨"", "", shape⟩, ⟨0, 0, 0, 0, 0, 0⟩⟩

/-- A picture with strokes of the given kinds and figures of the given shapes. -/
def blankPicture (titled : Bool) (kinds : List (Bool × Bool × Bool)) (shapes : List Shape) :
    Picture Float :=
  { width := 0
    height := 0
    title := if titled then some blankCaption else none
    strokes := kinds.map blankStroke
    figures := shapes.map blankFigure }

theorem bareTags_stroke (s : Stroke Float) :
    bareTags (tokensOf 2 (strokeElements s))
      = bareTags (tokensOf 2 (strokeElements (blankStroke s.kind))) := by
  obtain ⟨route, dashed, label⟩ := s
  cases route <;> cases dashed <;> cases label <;>
    simp [Stroke.kind, Route.isLoop, blankStroke, blankCaption, strokeElements, routeElement,
      labelElements, dashes, arrowed, centredAt, Element.tokens, tokensOf, bareTags]

theorem bareTags_strokes (strokes : List (Stroke Float)) :
    bareTags (tokensOf 2 (strokes.flatMap strokeElements))
      = bareTags (tokensOf 2 (((strokes.map Stroke.kind).map blankStroke).flatMap
          strokeElements)) := by
  induction strokes with
  | nil => rfl
  | cons s strokes ih =>
    simp only [List.flatMap_cons, List.map_cons, tokensOf_append, bareTags_append, ih]
    rw [← bareTags_stroke]

theorem bareTags_figure (f : Figure Float) :
    bareTags ((figureElement f).tokens 2)
      = bareTags ((figureElement (blankFigure f.node.shape)).tokens 2) := by
  obtain ⟨⟨id, label, shape⟩, placement⟩ := f
  cases shape <;>
    simp [blankFigure, figureElement, outlineElement, boxAttributes, outlineStyle, centredAt,
      Element.tokens, tokensOf, bareTags]

theorem bareTags_figures (figures : List (Figure Float)) :
    bareTags (tokensOf 2 (figures.map figureElement))
      = bareTags (tokensOf 2 (((figures.map fun f => f.node.shape).map blankFigure).map
          figureElement)) := by
  induction figures with
  | nil => rfl
  | cons f figures ih =>
    simp only [List.map_cons, tokensOf, bareTags_append, ih]
    rw [← bareTags_figure]

/-- A document has the tags of one without texts and lengths. -/
theorem bareTags_picture (p : Picture Float) :
    bareTags (p.element.tokens 0)
      = bareTags ((blankPicture p.title.isSome (p.strokes.map Stroke.kind)
          (p.figures.map fun f => f.node.shape)).element.tokens 0) := by
  have title : bareTags (tokensOf 1 (p.title.map titleElement).toList)
      = bareTags (tokensOf 1 ((blankPicture p.title.isSome [] []).title.map
          titleElement).toList) := by
    cases p.title <;>
      simp [blankPicture, titleElement, centredAt, Element.tokens, tokensOf, bareTags]
  have strokes := bareTags_strokes p.strokes
  have figures := bareTags_figures p.figures
  simp only [blankPicture] at title
  simp [Picture.element, blankPicture, canvasAttributes, Element.tokens, tokensOf, tokensOf_append,
    bareTags, title, strokes, figures]

/-! ### Legal documents -/

/-- The texts of a diagram. -/
def texts (d : Diagram) : List String :=
  d.title.toList ++ (d.edges.flatMap fun e => e.label.toList) ++
    d.nodes.flatMap fun node => [node.id, node.label]

/-- Diagrams whose texts hold no character that a document may not hold. -/
def Printable (d : Diagram) : Prop := ∀ text ∈ d.texts, LegalString text

instance (d : Diagram) : Decidable d.Printable := inferInstanceAs (Decidable (∀ _ ∈ _, _))

theorem legal_fixed (places : Nat) (x : Float) : LegalString (Number.fixed places x) := by
  intro c mem
  rcases Number.isMark_of_mem_fixed places x c mem with digit | mark
  · have range : 0x30 ≤ c.toNat ∧ c.toNat ≤ 0x39 := by
      rw [Char.isDigit, Bool.and_eq_true, decide_eq_true_eq, decide_eq_true_eq] at digit
      exact digit
    have inside : 0x20 ≤ c.toNat ∧ c.toNat ≤ 0xD7FF := ⟨by omega, by omega⟩
    exact List.any_eq_true.mpr ⟨(0x20, 0xD7FF), by decide, by simpa using inside⟩
  · exact (by decide : Legal "-.infNa".toList) c mark

@[simp] theorem legal_lengthText (x : Float) : LegalString (lengthText x) := legal_fixed 1 x

@[simp] theorem legal_wholeText (x : Float) : LegalString (wholeText x) := legal_fixed 0 x

/-- The words that the values of attributes are made of, besides numbers. -/
theorem legal_words :
    LegalString "edge" ∧ LegalString "edge-label" ∧ LegalString "18" ∧ LegalString "none" ∧
      LegalString "#ffffff" ∧ LegalString "#333333" ∧ LegalString "#f5f7fb" ∧ LegalString "12" ∧
      LegalString "middle" ∧ LegalString "6 4" ∧ LegalString "url(#arrow)" ∧ LegalString "M " ∧
      LegalString " C " ∧ LegalString ", " ∧ LegalString "," ∧ LegalString " " ∧
      LegalString "node" ∧ LegalString "14" ∧ LegalString "1.5" ∧ LegalString "title" ∧
      LegalString "bold" := by
  decide

theorem legal_loopCourse (x top bottom reach : Float) :
    LegalString (loopCourse x top bottom reach) := by
  have numbers : ∀ x, LegalString (lengthText x) := legal_lengthText
  unfold loopCourse
  -- How a number is written plays no part in how the texts are put together.
  generalize lengthText = written at numbers ⊢
  simp only [toString, legalString_append, legal_words, numbers, and_self]

theorem legal_diamondCorners (p : Placement Float) : LegalString (diamondCorners p) := by
  have numbers : ∀ x, LegalString (lengthText x) := legal_lengthText
  unfold diamondCorners
  generalize lengthText = written at numbers ⊢
  simp only [toString, legalString_append, legal_words, numbers, and_self]

theorem legal_canvas (width height : Float) :
    ∀ a ∈ canvasAttributes (wholeText width) (wholeText height), LegalString a.2 := by
  have w := legal_wholeText width
  have h := legal_wholeText height
  generalize wholeText width = width at w ⊢
  generalize wholeText height = height at h ⊢
  have words : LegalString "http://www.w3.org/2000/svg" ∧ LegalString "0 0 " ∧
      LegalString "Helvetica, Arial, sans-serif" := by decide
  simp only [canvasAttributes, fonts, toString, List.forall_mem_cons, legalString_append,
    legal_words, words, w, h, and_self, List.not_mem_nil, false_imp_iff, implies_true]

theorem legal_stroke (s : Stroke Float) :
    AllLegal (tokensOf 2 (strokeElements s)) ↔ ∀ text ∈ s.shown.2.2.toList, LegalString text := by
  obtain ⟨route, dashed, label⟩ := s
  cases route <;> cases dashed <;> cases label <;>
    simp [strokeElements, routeElement, labelElements, dashes, arrowed, centredAt, legal_loopCourse,
      strokeColour, Element.tokens, tokensOf, legal_words, Stroke.shown]

theorem legal_figure (f : Figure Float) :
    AllLegal ((figureElement f).tokens 2) ↔
      ∀ text ∈ [f.node.id, f.node.label], LegalString text := by
  obtain ⟨⟨id, label, shape⟩, placement⟩ := f
  cases shape <;>
    simp [figureElement, outlineElement, boxAttributes, outlineStyle, centredAt,
      legal_diamondCorners, strokeColour, fillColour, Element.tokens, tokensOf, legal_words]

/-- The texts of a picture. -/
def Picture.texts (p : Picture Float) : List String :=
  (p.title.map Caption.text).toList ++
    (p.strokes.map Stroke.shown).flatMap (fun x => x.2.2.toList) ++
    (p.figures.map Figure.node).flatMap fun node => [node.id, node.label]

/-- The document of a picture is legal exactly if its texts are. -/
theorem legal_picture (p : Picture Float) :
    AllLegal (p.element.tokens 0) ↔ ∀ text ∈ p.texts, LegalString text := by
  have title : AllLegal (tokensOf 1 (p.title.map titleElement).toList)
      ↔ ∀ text ∈ (p.title.map Caption.text).toList, LegalString text := by
    cases p.title <;> simp [titleElement, centredAt, Element.tokens, tokensOf, legal_words]
  have strokes : AllLegal (tokensOf 2 (p.strokes.flatMap strokeElements))
      ↔ ∀ text ∈ (p.strokes.map Stroke.shown).flatMap (fun x => x.2.2.toList),
          LegalString text := by
    induction p.strokes with
    | nil => exact iff_of_true allLegal_nil nofun
    | cons s strokes ih =>
      rw [List.flatMap_cons, tokensOf_append, allLegal_append, legal_stroke, ih, List.map_cons,
        List.flatMap_cons, List.forall_mem_append]
  have figures : AllLegal (tokensOf 2 (p.figures.map figureElement))
      ↔ ∀ text ∈ (p.figures.map Figure.node).flatMap (fun node => [node.id, node.label]),
          LegalString text := by
    induction p.figures with
    | nil => exact iff_of_true allLegal_nil nofun
    | cons f figures ih =>
      rw [List.map_cons, tokensOf, allLegal_append, legal_figure, ih, List.map_cons,
        List.flatMap_cons, List.forall_mem_append]
  have fixed : AllLegal (arrowHead.tokens 2) ∧ AllLegal (background.tokens 1) ∧
      LegalString "edges" ∧ LegalString "nodes" := by decide
  have canvas := eq_true (legal_canvas p.width p.height)
  have none := eq_true (List.forall_mem_nil fun a : Attribute => LegalString a.2)
  simp only [Picture.element, Element.tokens, tokensOf_append, tokensOf, List.append_nil,
    allLegal_append, allLegal_lineTokens, allLegal_cons, allLegal_nil, Token.legal_opening,
    Token.legal_closing, List.forall_mem_cons, Nat.zero_add, Nat.reduceAdd, title, strokes, figures,
    fixed, canvas, none, legal_words, strokeColour, true_and, and_true]
  simp only [Picture.texts, List.forall_mem_append, and_assoc]

theorem Sound.picture_texts {d : Diagram} (sound : d.Sound) :
    (d.picture (d.layout : Layout Float)).texts = d.texts := by
  have labels : d.edges.zipIdx.flatMap (fun x => x.1.label.toList)
      = d.edges.flatMap fun e => e.label.toList := by
    conv_rhs => rw [← List.zipIdx_map_fst 0 d.edges, List.flatMap_map]
  rw [Picture.texts, picture_title, sound.strokes_shown, picture_nodes, List.flatMap_map, texts,
    ← labels]
  rfl

/-! ### Documents of sound diagrams -/

/-- The tokens of the document that shows a diagram. -/
def svgTokens (d : Diagram) : List Token := (d.picture d.layout).element.tokens 0

theorem svg_toList (d : Diagram) : d.svg.toList = written d.svgTokens := by
  rw [svgTokens, written_tokens, svg, svgOf, Element.document, String.toList_ofList]

theorem proper_svgTokens (d : Diagram) : AllProper d.svgTokens := proper_picture _

/-- What is read in the document of a sound diagram is what there is to be kept of it. -/
theorem Sound.marks_svg {d : Diagram} (sound : d.Sound) :
    marks d.svgTokens = d.marksOf (d.layout : Layout Float).backEdges := by
  rw [svgTokens, marks_picture, picture_title, sound.strokes_shown, picture_nodes, List.flatMap_map,
    marksOf]
  simp only [Edge.marks_eq]

theorem Alike.bareTags_svg {d d' : Diagram} (alike : d.Alike d') (sound : d.Sound)
    (sound' : d'.Sound) : bareTags d.svgTokens = bareTags d'.svgTokens := by
  have titled : (d.picture (d.layout : Layout Float)).title.isSome
      = (d'.picture (d'.layout : Layout Float)).title.isSome := by
    have shown : ∀ d : Diagram,
        (d.picture (d.layout : Layout Float)).title.isSome = d.title.isSome := by
      intro d
      rw [← picture_title (α := Float) d, Option.isSome_map]
    rw [shown d, shown d', alike.titled]
  rw [svgTokens, svgTokens, bareTags_picture, bareTags_picture (d'.picture _), titled,
    alike.strokes_kind sound sound', alike.figures_shape]

theorem Sound.allLegal_svgTokens {d : Diagram} (sound : d.Sound) :
    AllLegal d.svgTokens ↔ d.Printable := by
  rw [svgTokens, legal_picture, sound.picture_texts, Printable]

/-- A document is legal exactly if the texts of its diagram are. -/
theorem Sound.legal_svg_iff {d : Diagram} (sound : d.Sound) :
    Legal d.svg.toList ↔ d.Printable := by
  rw [svg_toList, legal_written_iff (proper_svgTokens d), sound.allLegal_svgTokens]

/-- A document is well formed if the texts of its diagram are legal. -/
theorem Sound.isDocument_svg {d : Diagram} (sound : d.Sound) (printable : d.Printable) :
    IsDocument d.svg.toList := by
  rw [svg, svgOf, Element.document, String.toList_ofList]
  exact isDocument_block (proper_svgTokens d) (sound.allLegal_svgTokens.mpr printable)

/-! ### Documents and their readers -/

/--
**A reader finds a sound diagram in its document, and nothing else.**

The document is a sequence of nested tags, and what is kept of them is the title, each edge
with its label, dashed if it was set aside, and each node with its id and its label, all of
them in their order.  Another diagram that is alike has a document with the same tags and
attributes, whatever its texts are.
-/
theorem Sound.read_back {d : Diagram} (sound : d.Sound) :
    ∃ tokens, tokens? d.svg.toList = some tokens ∧ Nested tokens ∧
      marks tokens = d.marksOf (d.layout : Layout Float).backEdges ∧
      ∀ d' : Diagram, d'.Sound → d.Alike d' →
        ∃ tokens', tokens? d'.svg.toList = some tokens' ∧ bareTags tokens' = bareTags tokens := by
  have found : ∀ d : Diagram, tokens? d.svg.toList = some d.svgTokens := by
    intro d
    rw [svg_toList, tokens?_written (proper_svgTokens d)]
  refine ⟨d.svgTokens, found d, nested_tokens 0 _, sound.marks_svg, ?_⟩
  intro d' sound' alike
  exact ⟨d'.svgTokens, found d', (alike.bareTags_svg sound sound').symm⟩

/-- A diagram whose texts look like markup: there and back again, and a loop. -/
def hostile : Diagram where
  title := some "</svg>"
  direction := .leftRight
  nodes := [⟨"a", "\"><b>&amp;", .diamond⟩, ⟨"'", "'", .box⟩]
  edges := [⟨"a", "'", some "<!-- -->"⟩, ⟨"'", "a", none⟩, ⟨"a", "a", some ""⟩]

/-- A diagram without such texts. -/
def harmless : Diagram where
  title := some "t"
  direction := .leftRight
  nodes := [⟨"a", "x", .diamond⟩, ⟨"b", "y", .box⟩]
  edges := [⟨"a", "b", some "z"⟩, ⟨"b", "a", none⟩, ⟨"a", "a", some "z"⟩]

theorem Sound.read_back_hostile :
    ∃ tokens, tokens? hostile.svg.toList = some tokens ∧ Nested tokens ∧
      marks tokens
        = [.title "</svg>", .other "g" "edges", .edge "line" false, .ground, .text "<!-- -->",
          .edge "line" true, .edge "path" true, .ground, .text "", .other "g" "nodes", .node "a",
          .text "\"><b>&amp;", .node "'", .text "'"] ∧
      ∃ tokens', tokens? harmless.svg.toList = some tokens' ∧
        bareTags tokens' = bareTags tokens := by
  have sound : hostile.Sound := (check_eq_ok_iff _).mp (by decide +kernel)
  have sound' : harmless.Sound := (check_eq_ok_iff _).mp (by decide +kernel)
  have alike : hostile.Alike harmless := ⟨rfl, rfl, by decide +kernel⟩
  obtain ⟨tokens, read, nested, kept, others⟩ := sound.read_back
  refine ⟨tokens, read, nested, ?_, others harmless sound' alike⟩
  rw [kept, layout_backEdges]
  decide +kernel

/--
**A document is well formed exactly if the texts of its diagram are legal**: every character of
the document is legal if they are, and an illegal one of a text stands in the document as it is.
-/
theorem isDocument_iff_printable {text svg : String} (drawn : render text = .ok svg) :
    ∃ d, ofText text = .ok d ∧ (IsDocument svg.toList ↔ d.Printable) ∧
      (Legal svg.toList ↔ d.Printable) := by
  obtain ⟨d, read, rfl⟩ := (render_eq_ok_iff text svg).mp drawn
  have sound := sound_of_ofText read
  refine ⟨d, read, ⟨?_, sound.isDocument_svg⟩, sound.legal_svg_iff⟩
  intro document
  exact sound.legal_svg_iff.mp document.legal

/-- A node with a label. -/
def boxed (label : String) : Diagram := ⟨none, .topBottom, [⟨"a", label, .box⟩], []⟩

theorem isDocument_iff_printable_tag :
    render "a [<b>]" = .ok (boxed "<b>").svg ∧ ∃ d, ofText "a [<b>]" = .ok d ∧ d.Printable ∧
      IsDocument (boxed "<b>").svg.toList ∧ Legal (boxed "<b>").svg.toList := by
  have read : ofText "a [<b>]" = .ok (boxed "<b>") := by decide +kernel
  have drawn : render "a [<b>]" = .ok (boxed "<b>").svg := (render_eq_ok_iff _ _).mpr ⟨_, read, rfl⟩
  obtain ⟨d, read', document, legal⟩ := isDocument_iff_printable drawn
  obtain rfl : boxed "<b>" = d := Except.ok.inj (read.symm.trans read')
  have printable : (boxed "<b>").Printable := by decide
  exact ⟨drawn, _, read, printable, document.mpr printable, legal.mpr printable⟩

/-- A control character in a label is no reason not to draw a diagram, and none is escaped. -/
theorem not_isDocument_of_control :
    ∃ svg, render "a [\x01]" = .ok svg ∧ ¬ IsDocument svg.toList ∧ ¬ Legal svg.toList := by
  have read : ofText "a [\x01]" = .ok (boxed "\x01") := by decide +kernel
  have illegal : ¬ Legal (boxed "\x01").svg.toList := by
    rw [(sound_of_ofText read).legal_svg_iff]
    decide
  refine ⟨_, (render_eq_ok_iff _ _).mpr ⟨_, read, rfl⟩, ?_, illegal⟩
  intro document
  exact illegal document.legal

end Draftsman.Diagram
