import SpatialFilter.Proofs.OperatorGrammar

/-!
# Layers that the service does not have

A compilation does not begin with a check of its layer.  A layer that the service does not have
shows only where something of it is looked up: the srid of an envelope, the srid that a column is
stored in, the unit of a distance.  One kind of operator looks up none of these
(`Context.NeedsNoLayer`), and it compiles as if the layer were there; no other operator does
(`compiles_without_layer_iff`).
-/

namespace SpatialFilter

open SpatialFilter.Number
open SpatialFilter.Markup

/-- Nothing of the layer is looked up, and the operands are answered.  The operator is a predicate
on a column and a translated geometry, and the request asks for no reference, so that the srid of
the column does not matter. -/
structure Context.NeedsNoLayer (context : Context) (layer : String) (element : Element) : Prop where
  unrequested : context.requested = none
  named : element.name ∈ topologicalNames
  first : ∃ property column, element.elements[0]? = some property ∧
    context.NamesColumn layer property column
  second : ∃ operand text, element.elements[1]? = some operand ∧
    writesEnvelope operand = false ∧ context.Translates operand text

section Missing

variable {context : Context} {layer : String}

/-! ## What is looked up -/

theorem srid_of_missing {ε : Type} {catalog : LayerCatalog} (missing : catalog.get? layer = none) :
    catalog.srid layer = (.error (.unconfigured layer) : Except (Interruption ε) Int32) := by
  simp [LayerCatalog.srid, LayerCatalog.require, missing, Except.map]

theorem isMetric_of_missing {ε : Type} {catalog : LayerCatalog}
    (missing : catalog.get? layer = none) :
    catalog.isMetric layer = (.error (.unconfigured layer) : Except (Interruption ε) Bool) := by
  simp [LayerCatalog.isMetric, LayerCatalog.require, missing, Except.map]

/-- A column of a missing layer is used as it is, if the request asks for no reference. -/
theorem convertedColumn_of_missing {operator : SpatialOperator} {operand : Option Element}
    {sql : String} (missing : context.catalog.get? layer = none) :
    context.convertedColumn layer operator operand = .ok sql ↔
      context.requested = none ∧ context.operandColumn layer operator operand = .ok sql := by
  rw [convertedColumn_eq_ok_iff]
  unfold Context.conversionSrid
  cases context.requested with
  | none => simp [eq_comm]
  | some reference =>
    rw [srid_of_missing missing]
    simp [bind, Except.bind]

/-- Without a request, an envelope takes its srid from the layer. -/
theorem envelopeLiteral_of_missing {element : Element} {sql : String}
    (missing : context.catalog.get? layer = none) (unrequested : context.requested = none) :
    context.envelopeLiteral layer element ≠ .ok sql := by
  intro compiled
  obtain ⟨srid, literal, -⟩ := bind_eq_ok.mp compiled
  rw [Context.literalSrid, unrequested] at literal
  dsimp only at literal
  rw [srid_of_missing missing] at literal
  cases literal

/-- The unit of the layer is looked up before anything else about a distance. -/
theorem comparison_of_missing {operator : SpatialOperator} {comparator : String}
    {operands : List Element} {comparison : Comparison}
    (missing : context.catalog.get? layer = none) :
    context.comparison layer operator comparator operands ≠ .ok comparison := by
  intro compared
  obtain ⟨metric, measured, -⟩ := comparison_eq_ok_iff.mp compared
  rw [isMetric_of_missing missing] at measured
  cases measured

/-! ## What compiles -/

/-- What is complete without the layer never looks at it. -/
theorem needsNoLayer_of_fragment (missing : context.catalog.get? layer = none)
    {element : Element} {fragment : Fragment}
    (complete : context.fragment layer element = .ok fragment) :
    context.NeedsNoLayer layer element := by
  cases Context.fragment_eq_ok_iff.mp complete with
  | topological operator predicate sql named family compiled =>
    obtain ⟨column, geometry, converted, compared, -⟩ := topologicalSql_eq_ok_iff.mp compiled
    obtain ⟨unrequested, resolved⟩ := (convertedColumn_of_missing missing).mp converted
    obtain ⟨property, first, resolves⟩ := operandColumn_eq_ok_iff.mp resolved
    obtain ⟨operand, second, compares⟩ := comparedOperand_eq_ok_iff.mp compared
    cases compares with
    | envelope writes literal =>
      exact absurd literal (envelopeLiteral_of_missing missing unrequested)
    | geometry plain translates =>
      exact ⟨unrequested, (topological_iff.mp ⟨operator, named, family⟩).1,
        ⟨property, column, first, resolves⟩, ⟨operand, _, second, plain, translates⟩⟩
  | distance operator comparator comparison _ named family compared written =>
    exact absurd compared (comparison_of_missing missing)
  | box operator sql named family compiled =>
    obtain ⟨column, envelope, converted, boxed, -⟩ := boxSql_eq_ok_iff.mp compiled
    obtain ⟨unrequested, -⟩ := (convertedColumn_of_missing missing).mp converted
    obtain ⟨operand, -, -, literal⟩ := boxOperand_eq_ok_iff.mp boxed
    exact absurd literal (envelopeLiteral_of_missing missing unrequested)

/-- What never looks at the layer is complete without it. -/
theorem exists_fragment_of_needsNoLayer (missing : context.catalog.get? layer = none)
    {element : Element} (unneeded : context.NeedsNoLayer layer element) :
    ∃ fragment, context.fragment layer element = .ok fragment := by
  obtain ⟨unrequested, listed, ⟨property, column, first, resolves⟩,
    ⟨operand, text, second, plain, translates⟩⟩ := unneeded
  obtain ⟨operator, named, family⟩ := topological_iff.mpr ⟨listed, rfl⟩
  have resolved : context.operandColumn layer operator element.elements[0]? = .ok column :=
    operandColumn_eq_ok_iff.mpr ⟨property, first, resolves⟩
  have converted := (convertedColumn_of_missing missing).mpr ⟨unrequested, resolved⟩
  have compared : context.comparedOperand layer operator element.elements[1]? =
      .ok (Sql.textLiteral text) :=
    comparedOperand_eq_ok_iff.mpr ⟨operand, second, .geometry plain translates⟩
  have compiled : context.topologicalSql layer operator ("ST_" ++ element.name)
      element.elements = .ok _ :=
    topologicalSql_eq_ok_iff.mpr ⟨_, _, converted, compared, rfl⟩
  exact ⟨_, Context.fragment_eq_ok_iff.mpr (.topological operator _ _ named family compiled)⟩

end Missing

/-- For a layer that the service does not have, exactly those operators compile that look up nothing
of it.  For a layer that it has, no operator comes to a missing layer, as long as the collaborators
answer. -/
theorem compiles_without_layer_iff (context : Context) (layer : String) (element : Element)
    (draft : Draft) :
    (context.catalog.get? layer = none →
      ((draft.addOperator context layer element).2 = .ok () ↔
        context.NeedsNoLayer layer element)) ∧
      ∀ stored, context.catalog.get? layer = some stored → context.CollaboratorsAnswer layer →
        (draft.addOperator context layer element).2.Answers := by
  constructor
  · intro missing
    rw [addOperator_succeeds_iff]
    constructor
    · rintro ⟨fragment, complete⟩
      exact needsNoLayer_of_fragment missing complete
    · exact exists_fragment_of_needsNoLayer missing
  · intro stored configured answers name
    have answered := fragment_answers answers configured element name
    rw [addOperator_eq]
    cases compiled : context.fragment layer element with
    | ok fragment => simp
    | error interruption =>
      cases interruption with
      | failed error => simp
      | unconfigured other =>
        rw [compiled] at answered
        simpa using answered

/-! ## A service without rivers -/

/-- A service of roads, without a request for a reference. -/
def roadService : Context :=
  Context.ofCatalog ⟨[roadLayer], rfl⟩ ColumnMap.quoted GeometryReader.point

/-- What touches a point. -/
def touchingElement : Element :=
  ⟨"Touches", [], [.element "PropertyName" [] [.text "geom"],
    .element "Point" [] [.element "pos" [] [.text "1 2"]]]⟩

/-- When a reference is requested, a missing layer shows in the conversion of the column. -/
theorem missing_layer_refused_on_request :
    (Draft.empty.addOperator roadContext "rivers" touchingElement).2 ≠ .ok () ∧
      (Draft.empty.addOperator roadContext "roads" touchingElement).2.Answers := by
  obtain ⟨missing, -⟩ :=
    compiles_without_layer_iff roadContext "rivers" touchingElement Draft.empty
  obtain ⟨-, configured⟩ :=
    compiles_without_layer_iff roadContext "roads" touchingElement Draft.empty
  constructor
  · intro succeeded
    have unrequested := ((missing rfl).mp succeeded).unrequested
    cases unrequested
  · exact configured roadLayer rfl roadContext_answers

/-- Without a request, the rivers are compared with a point in a service that has no rivers. -/
theorem missing_layer_compiles :
    roadService.catalog.get? "rivers" = none ∧
      (Draft.empty.addOperator roadService "rivers" touchingElement).1 =
        ⟨"ST_Touches(\"geom\",\x27SRID=4326;POINT(1 2)\x27)", none⟩ ∧
      (Draft.empty.addOperator roadService "rivers" touchingElement).2 = .ok () := by
  refine ⟨rfl, by decide +kernel, ?_⟩
  exact eq_ok_of_toOption (by decide +kernel)

end SpatialFilter
