import Mathlib.Logic.Relation
import SpatialFilter.Proofs.GeometryFrame
import SpatialFilter.Proofs.OperatorGrammar

/-!
# Comments and layout

A filter may be written with comments, and with line breaks and other text between its elements.
None of it changes what an operator compiles to.  Comments and cuts in a text can stand at any depth
(`Recut`).  Other text can stand where only elements are looked for: under the operator, under an
envelope, and under a corner with an element for each coordinate (`Edit`).

The compiler reads a few things of every operand, its `Outline`, and no edit changes them
(`outline_of_edit`).  Two operators with the same outlines compile alike wherever the translator
answers the same for the operand that is handed to it (`fragment_of_outline`).
-/

namespace SpatialFilter

open SpatialFilter.Number
open SpatialFilter.Markup

/-! ## Edits -/

namespace Markup

/-- One comment more somewhere in these nodes, or one text cut in two. -/
inductive Recut : List Node → List Node → Prop
  | comment (content : String) (rest : List Node) : Recut rest (.comment content :: rest)
  | cut (front back : String) (rest : List Node) :
    Recut (.text (front ++ back) :: rest) (.text front :: .text back :: rest)
  | inside (name : String) (attributes : List (String × String)) {children children' : List Node}
      (rest : List Node) (recut : Recut children children') :
    Recut (.element name attributes children :: rest) (.element name attributes children' :: rest)
  | behind (node : Node) {rest rest' : List Node} (recut : Recut rest rest') :
    Recut (node :: rest) (node :: rest')

/-- One text more among these nodes. -/
inductive Padded : List Node → List Node → Prop
  | text (content : String) (rest : List Node) : Padded rest (.text content :: rest)
  | behind (node : Node) {rest rest' : List Node} (padded : Padded rest rest') :
    Padded (node :: rest) (node :: rest')

/-- One element among these nodes is changed in its children. -/
inductive Changed (change : Element → Element → Prop) : List Node → List Node → Prop
  | element {name : String} {attributes : List (String × String)} {children children' : List Node}
      (rest : List Node)
      (changed : change ⟨name, attributes, children⟩ ⟨name, attributes, children'⟩) :
    Changed change (.element name attributes children :: rest)
      (.element name attributes children' :: rest)
  | behind (node : Node) {rest rest' : List Node} (changed : Changed change rest rest') :
    Changed change (node :: rest) (node :: rest')

/-- The element with other children. -/
def Element.holding (element : Element) (children : List Node) : Element :=
  { element with children := children }

end Markup

/-- One text more directly under a corner with an element for each coordinate. -/
inductive PaddedCoord : Element → Element → Prop
  | text {coord : Element} {children : List Node} (named : coord.name = "coord")
      (padded : Padded coord.children children) : PaddedCoord coord (coord.holding children)

/-- One text more directly under an envelope, or under a corner of a box of such corners. -/
inductive PaddedEnvelope : Element → Element → Prop
  | text {envelope : Element} {children : List Node} (writes : writesEnvelope envelope = true)
      (padded : Padded envelope.children children) :
    PaddedEnvelope envelope (envelope.holding children)
  | coord {box first : Element} {children : List Node} (named : box.name = "Box")
      (leads : box.elements[0]? = some first) (first_named : first.name = "coord")
      (padded : Changed PaddedCoord box.children children) :
    PaddedEnvelope box (box.holding children)

/-- One comment or layout text more in an operator element, or one text cut in two. -/
inductive Edit : Element → Element → Prop
  | recut {operator : Element} {children : List Node} (recut : Recut operator.children children) :
    Edit operator (operator.holding children)
  | text {operator : Element} {children : List Node} (padded : Padded operator.children children) :
    Edit operator (operator.holding children)
  | envelope {operator : Element} {children : List Node}
      (padded : Changed PaddedEnvelope operator.children children) :
    Edit operator (operator.holding children)

/-! ## What is left as it is -/

namespace Markup

section Nodes

variable {α : Type} {view : Element → α} {element : Element} {children : List Node}

/-- The view does not change where the children are cut anew. -/
def KeptByRecut (view : Element → α) : Prop :=
  ∀ (element : Element) (children : List Node), Recut element.children children →
    view (element.holding children) = view element

/-- Comments and cuts leave the text of an element as it is. -/
theorem text_of_recut : KeptByRecut Element.text := by
  rintro ⟨name, attributes, nodes⟩ children recut
  change Recut nodes children at recut
  induction recut with
  | comment => rfl
  | cut front back rest => simp [Element.text, Element.holding, String.append_assoc]
  | inside => rfl
  | behind node recut ih =>
    cases node with
    | text content => simpa [Element.text, Element.holding] using ih
    | element | comment => exact ih

/-- Views of the children are kept where the children are cut anew. -/
theorem map_view_of_recut (kept : KeptByRecut view) :
    KeptByRecut fun element => element.elements.map view := by
  rintro ⟨name, attributes, nodes⟩ children recut
  change Recut nodes children at recut
  induction recut with
  | comment | cut => rfl
  | @inside name' attributes' inner inner' rest recut ih =>
    exact congrArg (· :: _) (kept ⟨name', attributes', inner⟩ inner' recut)
  | behind node recut ih =>
    cases node with
    | element name' attributes' inner => exact congrArg (view ⟨name', attributes', inner⟩ :: ·) ih
    | text | comment => exact ih

/-- A text more is no element more. -/
theorem elements_of_padded (padded : Padded element.children children) :
    (element.holding children).elements = element.elements := by
  obtain ⟨name, attributes, nodes⟩ := element
  change Padded nodes children at padded
  induction padded with
  | text => rfl
  | behind node padded ih =>
    cases node with
    | element name' attributes' inner => exact congrArg (⟨name', attributes', inner⟩ :: ·) ih
    | text | comment => exact ih

/-- Views of the children are kept where a change of one child keeps its view. -/
theorem map_view_of_changed {change : Element → Element → Prop}
    (kept : ∀ child child', change child child' → view child' = view child)
    (changed : Changed change element.children children) :
    (element.holding children).elements.map view = element.elements.map view := by
  obtain ⟨name, attributes, nodes⟩ := element
  change Changed change nodes children at changed
  induction changed with
  | element rest changed => exact congrArg (· :: _) (kept _ _ changed)
  | behind node changed ih =>
    cases node with
    | element name' attributes' inner => exact congrArg (view ⟨name', attributes', inner⟩ :: ·) ih
    | text | comment => exact ih

end Nodes

end Markup

/-! ## What is read of an envelope -/

/-- What is looked up in a corner: the name and the text of an element. -/
def Markup.Element.label (element : Element) : String × String :=
  (element.name, element.text)

/-- What a box reads of a child. -/
structure Part where
  name : String
  /-- The text, which is not read where there is an element for each coordinate. -/
  text : Option String
  corner : Except FilterError Corner

/-- The element as a child of a box. -/
def Markup.Element.part (element : Element) : Part :=
  ⟨element.name, if element.name = "coord" then none else some element.text,
    Envelope.cornerOfCoord element⟩

namespace Envelope

variable {element other : Element}

theorem axis_eq (coord : Element) (name : String) :
    axis coord name =
      match (coord.elements.map Element.label).find? fun label => label.1 == name with
      | some label => readNumber label.2.toList
      | none => .error (.structural (.noAxis name)) := by
  have found : (coord.elements.map Element.label).find? (fun label => label.1 == name) =
      (coord.elements.find? fun child => child.name == name).map Element.label :=
    List.find?_map
  rw [found, axis]
  cases coord.elements.find? fun child => child.name == name <;> rfl

theorem cornerOfCoord_of_labels
    (same : element.elements.map Element.label = other.elements.map Element.label) :
    cornerOfCoord element = cornerOfCoord other := by
  unfold cornerOfCoord
  simp only [axis_eq, same]

theorem ofCorners_eq (element : Element) :
    ofCorners element =
      match element.elements.map Element.text with
      | lower :: upper :: _ => do
        return ⟨← readPosition lower.toList, ← readPosition upper.toList⟩
      | _ => .error (.structural .noCorners) := by
  unfold ofCorners
  rcases element.elements with _ | ⟨lower, _ | ⟨upper, others⟩⟩ <;> rfl

theorem ofCoords_eq (element : Element) :
    ofCoords element =
      match ((element.elements.map Element.part).filter fun part => part.name == "coord").map
          Part.corner with
      | lower :: upper :: _ => do return ⟨← lower, ← upper⟩
      | _ => .error (.structural .noCoordPair) := by
  have corners : ((element.elements.map Element.part).filter fun part =>
      part.name == "coord").map Part.corner =
        (element.elements.filter fun child => child.name == "coord").map cornerOfCoord := by
    rw [List.filter_map, List.map_map]
    rfl
  rw [corners, ofCoords]
  generalize element.elements.filter (fun child => child.name == "coord") = coords
  rcases coords with _ | ⟨lower, _ | ⟨upper, others⟩⟩ <;> rfl

theorem ofBox_eq (element : Element) :
    ofBox element =
      match element.elements.map Element.part with
      | [] => .error (.structural .noCoordinates)
      | first :: _ =>
        match first.text with
        | none => ofCoords element
        | some text => ofCoordinates text.toList := by
  unfold ofBox
  cases element.elements with
  | nil => rfl
  | cons first others =>
    by_cases coord : first.name = "coord"
    · simp [Element.part, coord]
    · simp [Element.part, coord]

/-- An envelope is read off the texts of its children, or off its children as those of a box. -/
theorem ofElement_of_children (named : element.name = other.name)
    (texts : element.name = "Envelope" →
      element.elements.map Element.text = other.elements.map Element.text)
    (parts : element.name = "Box" →
      element.elements.map Element.part = other.elements.map Element.part) :
    ofElement element = ofElement other := by
  unfold ofElement
  rw [← named]
  by_cases corners : element.name = "Envelope"
  · rw [if_pos corners, if_pos corners, ofCorners_eq, ofCorners_eq, texts corners]
  · rw [if_neg corners, if_neg corners]
    by_cases box : element.name = "Box"
    · rw [if_pos box, if_pos box, ofBox_eq, ofBox_eq, ofCoords_eq, ofCoords_eq, parts box]
    · rw [if_neg box, if_neg box]

end Envelope

/-! ## Outlines -/

/-- What the compiler reads of an operand without the translator. -/
structure Outline where
  name : String
  attributes : List (String × String)
  /-- The text, which is not read of an envelope. -/
  text : Option String
  envelope : Except FilterError Envelope

/-- The element as an operand. -/
def Markup.Element.outline (element : Element) : Outline :=
  ⟨element.name, element.attributes, if writesEnvelope element then none else some element.text,
    Envelope.ofElement element⟩

section Kept

variable {element : Element} {children : List Node}

theorem label_of_recut : KeptByRecut Element.label := by
  intro element children recut
  exact congrArg (element.name, ·) (text_of_recut element children recut)

theorem part_of_recut : KeptByRecut Element.part := by
  intro element children recut
  have text := text_of_recut element children recut
  have corner := Envelope.cornerOfCoord_of_labels (map_view_of_recut label_of_recut _ _ recut)
  unfold Element.part
  rw [text, corner]
  rfl

/-- Comments and cuts, however deep, leave an outline as it is. -/
theorem outline_of_recut : KeptByRecut Element.outline := by
  intro element children recut
  have text := text_of_recut element children recut
  have envelope : Envelope.ofElement (element.holding children) = Envelope.ofElement element :=
    Envelope.ofElement_of_children rfl
      (fun _ => map_view_of_recut text_of_recut _ _ recut)
      (fun _ => map_view_of_recut part_of_recut _ _ recut)
  unfold Element.outline
  rw [text, envelope]
  rfl

theorem part_of_paddedCoord (coord coord' : Element) (padded : PaddedCoord coord coord') :
    coord'.part = coord.part := by
  cases padded with
  | @text children named padded =>
    have corner : Envelope.cornerOfCoord (coord.holding children) =
        Envelope.cornerOfCoord coord := by
      apply Envelope.cornerOfCoord_of_labels
      rw [elements_of_padded padded]
    have named' : (coord.holding children).name = "coord" := named
    unfold Element.part
    rw [corner, if_pos named, if_pos named']
    rfl

theorem outline_of_envelope {envelope : Element} (writes : writesEnvelope envelope = true)
    (read : Envelope.ofElement (envelope.holding children) = Envelope.ofElement envelope) :
    (envelope.holding children).outline = envelope.outline := by
  have writes' : writesEnvelope (envelope.holding children) = true := writes
  unfold Element.outline
  rw [read, if_pos writes, if_pos writes']
  rfl

/-- Layout texts in an envelope leave its outline as it is. -/
theorem outline_of_paddedEnvelope (envelope envelope' : Element)
    (padded : PaddedEnvelope envelope envelope') : envelope'.outline = envelope.outline := by
  cases padded with
  | text writes padded =>
    have same := elements_of_padded padded
    exact outline_of_envelope writes
      (Envelope.ofElement_of_children rfl (fun _ => by rw [same]) (fun _ => by rw [same]))
  | coord named leads first_named padded =>
    refine outline_of_envelope (by simp [writesEnvelope, named])
      (Envelope.ofElement_of_children rfl ?_ ?_)
    · intro other
      exact absurd (named.symm.trans other) (by decide)
    · intro _
      exact map_view_of_changed part_of_paddedCoord padded

end Kept

/-- What is read of an operator element without the translator. -/
def operatorOutline (operator : Element) : String × List Outline :=
  (operator.name, operator.elements.map Element.outline)

/-- No edit changes what is read of an operator. -/
theorem outline_of_edit {operator edited : Element} (edit : Edit operator edited) :
    operatorOutline edited = operatorOutline operator := by
  cases edit with
  | recut recut =>
    exact congrArg (operator.name, ·) (map_view_of_recut outline_of_recut _ _ recut)
  | text padded =>
    unfold operatorOutline
    rw [elements_of_padded padded]
    rfl
  | envelope padded =>
    exact congrArg (operator.name, ·) (map_view_of_changed outline_of_paddedEnvelope padded)

theorem outline_of_edits {operator edited : Element}
    (edits : Relation.EqvGen Edit operator edited) :
    operatorOutline operator = operatorOutline edited := by
  induction edits with
  | rel _ _ edit => exact (outline_of_edit edit).symm
  | refl => rfl
  | symm _ _ _ ih => exact ih.symm
  | trans _ _ _ _ _ first second => exact first.trans second

/-! ## Compiling by outlines -/

section Operands

variable {context : Context} {layer : String} {operator : SpatialOperator}
  {element other : Element} {operand operand' : Option Element}

theorem text_of_outline (same : element.outline = other.outline)
    (plain : writesEnvelope element = false) : element.text = other.text := by
  have named : element.name = other.name := congrArg Outline.name same
  have plain' : writesEnvelope other = false := by
    unfold writesEnvelope at plain ⊢
    rwa [← named]
  have texts := congrArg Outline.text same
  simpa [Element.outline, plain, plain'] using texts

/-- Operands with one outline are of one kind. -/
theorem operand_of_outline (same : element.outline = other.outline) :
    (NamesProperty element ∧
        Operand.ofElement element = .property (propertyName element) ∧
        Operand.ofElement other = .property (propertyName element)) ∨
      (writesEnvelope element = true ∧ ¬ NamesProperty element ∧
        Operand.ofElement element = .envelope element ∧
        Operand.ofElement other = .envelope other) ∨
      writesEnvelope element = false ∧ ¬ NamesProperty element ∧
        Operand.ofElement element = .geometry element ∧
        Operand.ofElement other = .geometry other := by
  have named : element.name = other.name := congrArg Outline.name same
  have property_iff : NamesProperty element ↔ NamesProperty other := by
    unfold NamesProperty
    rw [named]
  have writes_eq : writesEnvelope element = writesEnvelope other := by
    unfold writesEnvelope
    rw [named]
  rcases namesProperty_or_writesEnvelope_or_other element with
    property | writes | ⟨noProperty, plain⟩
  · have plain : writesEnvelope element = false := by
      rw [Bool.eq_false_iff]
      exact fun writes => not_namesProperty_of_writesEnvelope writes property
    have name_eq : propertyName element = propertyName other := by
      unfold propertyName
      rw [text_of_outline same plain]
    refine Or.inl ⟨property, ofElement_of_namesProperty property, ?_⟩
    rw [name_eq]
    exact ofElement_of_namesProperty (property_iff.mp property)
  · refine Or.inr (Or.inl ⟨writes, not_namesProperty_of_writesEnvelope writes,
      Operand.ofElement_of_writesEnvelope writes, ?_⟩)
    exact Operand.ofElement_of_writesEnvelope (writes_eq ▸ writes)
  · refine Or.inr (Or.inr ⟨plain, noProperty, ofElement_of_other noProperty plain, ?_⟩)
    exact ofElement_of_other (fun property => noProperty (property_iff.mpr property))
      (writes_eq ▸ plain)

/-- Of the two operands, neither is there, or both are and have one outline. -/
theorem outline_cases (same : operand.map Element.outline = operand'.map Element.outline) :
    (operand = none ∧ operand' = none) ∨
      ∃ element other, operand = some element ∧ operand' = some other ∧
        element.outline = other.outline := by
  cases operand with
  | none =>
    cases operand' with
    | none => exact Or.inl ⟨rfl, rfl⟩
    | some other => cases same
  | some element =>
    cases operand' with
    | none => cases same
    | some other => exact Or.inr ⟨element, other, rfl, rfl, Option.some.inj same⟩

theorem envelopeLiteral_of_outline (same : element.outline = other.outline) :
    context.envelopeLiteral layer element = context.envelopeLiteral layer other := by
  have attributes : element.attributes = other.attributes := congrArg Outline.attributes same
  have envelope : Envelope.ofElement element = Envelope.ofElement other :=
    congrArg Outline.envelope same
  unfold Context.envelopeLiteral Element.attribute?
  rw [attributes, envelope]

variable (same : operand.map Element.outline = operand'.map Element.outline)

include same

theorem operandColumn_of_outline :
    context.operandColumn layer operator operand =
      context.operandColumn layer operator operand' := by
  rcases outline_cases same with ⟨rfl, rfl⟩ | ⟨element, other, rfl, rfl, alike⟩
  · rfl
  · rcases operand_of_outline alike with
      ⟨-, kind, kind'⟩ | ⟨-, -, kind, kind'⟩ | ⟨-, -, kind, kind'⟩ <;>
    simp [Context.operandColumn, kind, kind']

theorem convertedColumn_of_outline :
    context.convertedColumn layer operator operand =
      context.convertedColumn layer operator operand' := by
  unfold Context.convertedColumn
  rw [operandColumn_of_outline same]

theorem boxOperand_of_outline :
    context.boxOperand layer operand = context.boxOperand layer operand' := by
  rcases outline_cases same with ⟨rfl, rfl⟩ | ⟨element, other, rfl, rfl, alike⟩
  · rfl
  · rcases operand_of_outline alike with
      ⟨-, kind, kind'⟩ | ⟨-, -, kind, kind'⟩ | ⟨-, -, kind, kind'⟩
    · simp [Context.boxOperand, kind, kind']
    · simp [Context.boxOperand, kind, kind', envelopeLiteral_of_outline alike]
    · simp [Context.boxOperand, kind, kind']

theorem comparedOperand_of_outline
    (translated : ∀ element other, operand = some element → operand' = some other →
      writesEnvelope element = false → ¬ NamesProperty element →
      context.geometries element = context.geometries other) :
    context.comparedOperand layer operator operand =
      context.comparedOperand layer operator operand' := by
  rcases outline_cases same with ⟨rfl, rfl⟩ | ⟨element, other, rfl, rfl, alike⟩
  · rfl
  · rcases operand_of_outline alike with
      ⟨-, kind, kind'⟩ | ⟨-, -, kind, kind'⟩ | ⟨plain, noProperty, kind, kind'⟩
    · simp [Context.comparedOperand, kind, kind']
    · simp [Context.comparedOperand, kind, kind', envelopeLiteral_of_outline alike]
    · have answer := translated element other rfl rfl plain noProperty
      simp [Context.comparedOperand, kind, kind', Context.geometryLiteral, answer]

theorem measuredOperand_of_outline
    (translated : ∀ element other, operand = some element → operand' = some other →
      ¬ NamesProperty element → context.geometries element = context.geometries other) :
    context.measuredOperand operator operand = context.measuredOperand operator operand' := by
  rcases outline_cases same with ⟨rfl, rfl⟩ | ⟨element, other, rfl, rfl, alike⟩
  · rfl
  · rcases operand_of_outline alike with
      ⟨-, kind, kind'⟩ | ⟨-, noProperty, kind, kind'⟩ | ⟨-, noProperty, kind, kind'⟩
    · simp [Context.measuredOperand, kind, kind']
    · have answer := translated element other rfl rfl noProperty
      simp [Context.measuredOperand, kind, kind', Context.geometryLiteral, answer]
    · have answer := translated element other rfl rfl noProperty
      simp [Context.measuredOperand, kind, kind', Context.geometryLiteral, answer]

theorem limitOperand_of_outline :
    Context.limitOperand operator operand = Context.limitOperand operator operand' := by
  rcases outline_cases same with ⟨rfl, rfl⟩ | ⟨element, other, rfl, rfl, alike⟩
  · rfl
  · have named : element.name = other.name := congrArg Outline.name alike
    have attributes : element.attributes = other.attributes := congrArg Outline.attributes alike
    by_cases distance : element.name = "Distance"
    · have plain : writesEnvelope element = false := by simp [writesEnvelope, distance]
      have read : Context.readDistance element = Context.readDistance other := by
        unfold Context.readDistance Element.attribute?
        rw [text_of_outline alike plain, attributes]
      simp [Context.limitOperand, Option.filter_some, ← named, distance, read]
    · simp [Context.limitOperand, Option.filter_some, ← named, distance]

end Operands

/-- The operator asks the translator for its second operand. -/
theorem translates_of_family {element operand : Element} {operator : SpatialOperator}
    (named : SpatialOperator.ofName? element.name = some operator)
    (noProperty : ¬ NamesProperty operand)
    (asks : (∃ comparator, operator.family = .distance comparator) ∨
      writesEnvelope operand = false ∧ ∃ predicate, operator.family = .topological predicate) :
    translates element operand = true := by
  unfold translates
  rcases asks with ⟨comparator, family⟩ | ⟨plain, predicate, family⟩
  · cases writes : writesEnvelope operand with
    | true => simp [named, family, Operand.ofElement_of_writesEnvelope writes]
    | false => simp [named, family, ofElement_of_other noProperty writes]
  · simp [named, family, ofElement_of_other noProperty plain]

/-- The outline of an operator decides what it compiles to, once the translator has answered. -/
theorem fragment_of_outline {context : Context} {layer : String} {element other : Element}
    (same : operatorOutline element = operatorOutline other)
    (translated : ∀ operand operand', element.elements[1]? = some operand →
      other.elements[1]? = some operand' → translates element operand = true →
      context.geometries operand = context.geometries operand') :
    context.fragment layer element = context.fragment layer other := by
  obtain ⟨name_eq, outlines⟩ := Prod.mk.inj same
  have alike : ∀ i : Nat, element.elements[i]?.map Element.outline =
      other.elements[i]?.map Element.outline := by
    intro i
    rw [← List.getElem?_map, ← List.getElem?_map, outlines]
  unfold Context.fragment
  rw [← name_eq]
  cases named : SpatialOperator.ofName? element.name with
  | none => rfl
  | some operator =>
    cases family : operator.family with
    | topological predicate =>
      have compared := @comparedOperand_of_outline context layer operator _ _ (alike 1)
        fun operand operand' second second' plain noProperty =>
          translated operand operand' second second'
            (translates_of_family named noProperty (Or.inr ⟨plain, predicate, family⟩))
      simp only [family, Context.topologicalSql, convertedColumn_of_outline (alike 0), compared]
    | distance comparator =>
      have measured := @measuredOperand_of_outline context operator _ _ (alike 1)
        fun operand operand' second second' noProperty =>
          translated operand operand' second second'
            (translates_of_family named noProperty (Or.inl ⟨comparator, family⟩))
      simp only [family, Context.comparison, operandColumn_of_outline (alike 0), measured,
        limitOperand_of_outline (alike 2)]
    | box =>
      simp only [family, Context.boxSql, convertedColumn_of_outline (alike 0),
        boxOperand_of_outline (alike 1)]

/-- Any number of comments, cuts in texts and layout texts, put in or taken away, leaves what an
operator element compiles to as it is, for every layer and draft: the result, the text and the
error.  Only the translator could tell the elements apart, so it has to answer the same for the
operand that is handed to it. -/
theorem layout_changes_nothing {operator edited : Element}
    (edits : Relation.EqvGen Edit operator edited) {context : Context}
    (translated : ∀ operand operand', operator.elements[1]? = some operand →
      edited.elements[1]? = some operand' → translates operator operand = true →
      context.geometries operand = context.geometries operand')
    (layer : String) (draft : Draft) :
    draft.addOperator context layer edited = draft.addOperator context layer operator := by
  have same := outline_of_edits edits
  rw [addOperator_eq, addOperator_eq, fragment_of_outline same translated]

/-! ## Roads in a point and in a box -/

/-- The roads in a point. -/
def crossedElement : Element :=
  ⟨"Intersects", [], [.element "PropertyName" [] [.text "geom"],
    .element "Point" [] [.element "pos" [] [.text "1 2"]]]⟩

/-- The same with a line break, a comment in the name and one in the point. -/
def annotatedElement : Element :=
  ⟨"Intersects", [], [.text "\n",
    .element "PropertyName" [] [.text "ge", .comment "column", .text "om"],
    .element "Point" [] [.comment "position", .element "pos" [] [.text "1 2"]]]⟩

theorem annotated_edits : Relation.EqvGen Edit crossedElement annotatedElement := by
  refine .trans _ _ _ (.rel _ _ (.text (.text "\n" _))) ?_
  refine .trans _ _ _ (.rel _ _ (.recut (.behind _ (.inside _ _ _ (.cut "ge" "om" []))))) ?_
  refine .trans _ _ _
    (.rel _ _ (.recut (.behind _ (.inside _ _ _ (.behind _ (.comment "column" _)))))) ?_
  exact .rel _ _ (.recut (.behind _ (.behind _ (.inside _ _ _ (.comment "position" _)))))

/-- The roads in a box of corners with an element for each coordinate. -/
def boxedElement : Element :=
  ⟨"BBOX", [], [.element "PropertyName" [] [.text "geom"],
    .element "Box" [] [
      .element "coord" [] [.element "X" [] [.text "1"], .element "Y" [] [.text "2"]],
      .element "coord" [] [.element "X" [] [.text "3"], .element "Y" [] [.text "4"]]]]⟩

/-- The same with line breaks in the box and in its first corner. -/
def indentedElement : Element :=
  ⟨"BBOX", [], [.element "PropertyName" [] [.text "geom"],
    .element "Box" [] [.text "\n",
      .element "coord" [] [.text "\n", .element "X" [] [.text "1"], .element "Y" [] [.text "2"]],
      .element "coord" [] [.element "X" [] [.text "3"], .element "Y" [] [.text "4"]]]]⟩

theorem indented_edits : Relation.EqvGen Edit boxedElement indentedElement := by
  refine .trans _ _ _ (.rel _ _ (.envelope (.behind _ (.element _ (.coord rfl rfl rfl
    (.element _ (.text rfl (.text "\n" _)))))))) ?_
  exact .rel _ _ (.envelope (.behind _ (.element _ (.text rfl (.text "\n" _)))))

/-- With comments and line breaks, the roads in the point and those in the box are compiled to the
SQL that they are compiled to without. -/
theorem annotated_and_indented_compile_alike :
    (Draft.empty.addOperator roadContext "roads" annotatedElement =
        Draft.empty.addOperator roadContext "roads" crossedElement ∧
      Draft.empty.addOperator roadContext "roads" crossedElement =
        (⟨"ST_Intersects(st_transform(\"geom\",4326),'SRID=4326;POINT(1 2)')", none⟩, .ok ())) ∧
    Draft.empty.addOperator roadContext "roads" indentedElement =
        Draft.empty.addOperator roadContext "roads" boxedElement ∧
      Draft.empty.addOperator roadContext "roads" boxedElement =
        (⟨"st_intersects(st_transform(\"geom\",4326),setsrid('BOX(1 2,3 4)'::box2d,4326))", none⟩,
          .ok ()) := by
  refine ⟨⟨?_, ?_⟩, ?_, ?_⟩
  · refine layout_changes_nothing annotated_edits ?_ "roads" Draft.empty
    rintro operand operand' ⟨⟩ ⟨⟩ -
    rfl
  · exact eq_ok_of_fst (by decide +kernel) (by decide +kernel)
  · refine layout_changes_nothing indented_edits ?_ "roads" Draft.empty
    rintro operand operand' ⟨⟩ ⟨⟩ ⟨⟩
  · exact eq_ok_of_fst (by decide +kernel) (by decide +kernel)

end SpatialFilter
