import SpatialFilter.Proofs.SharedReference
import SpatialFilter.Proofs.UnconfiguredLayers

/-!
# What the requested reference decides

The reference that a request asks for reaches the SQL in three places: it can convert the column, it
gives the srid of an envelope, and the name on an envelope has to mention it.  All three go through
the one srid that is compared in, so two requests that agree on it compile alike, failures included
(`fragment_of_comparedSrid`).  Distances are measured without it (`comparison_of_sameService`).
-/

namespace SpatialFilter

open SpatialFilter.Number
open SpatialFilter.Markup

/-- Two contexts that differ at most in the reference that the request asks for. -/
structure Context.SameService (context other : Context) : Prop where
  catalog : context.catalog = other.catalog
  columns : context.columns = other.columns
  geometries : context.geometries = other.geometries

theorem sameService_withRequested (context : Context) (reference : SpatialReference) :
    context.SameService (context.withRequested reference) := by
  unfold Context.withRequested
  split <;> exact ⟨rfl, rfl, rfl⟩

section SameService

variable {context other : Context} (same : context.SameService other)

include same

/-! ## What the request does not reach -/

theorem operandColumn_of_sameService (layer : String) (operator : SpatialOperator)
    (operand : Option Element) :
    context.operandColumn layer operator operand = other.operandColumn layer operator operand := by
  unfold Context.operandColumn
  rw [same.columns]

theorem geometryLiteral_of_sameService (element : Element) :
    context.geometryLiteral element = other.geometryLiteral element := by
  unfold Context.geometryLiteral
  rw [same.geometries]

theorem measuredOperand_of_sameService (operator : SpatialOperator) (operand : Option Element) :
    context.measuredOperand operator operand = other.measuredOperand operator operand := by
  unfold Context.measuredOperand
  split
  · exact geometryLiteral_of_sameService same _
  · exact geometryLiteral_of_sameService same _
  · rfl

/-- A distance does not depend on the request. -/
theorem comparison_of_sameService (layer : String) (operator : SpatialOperator)
    (comparator : String) (operands : List Element) :
    context.comparison layer operator comparator operands =
      other.comparison layer operator comparator operands := by
  unfold Context.comparison
  rw [same.catalog, operandColumn_of_sameService same, measuredOperand_of_sameService same]

/-! ## What it reaches -/

section SameSrids

variable {layer : String} (literal : context.literalSrid layer = other.literalSrid layer)
  (conversion : context.conversionSrid layer = other.conversionSrid layer)

include literal

omit same in
/-- The name on an envelope is compared with the srid of its literal. -/
theorem envelopeLiteral_of_literalSrid (element : Element) :
    context.envelopeLiteral layer element = other.envelopeLiteral layer element := by
  unfold Context.envelopeLiteral
  rw [literal]

theorem comparedOperand_of_literalSrid (operator : SpatialOperator) (operand : Option Element) :
    context.comparedOperand layer operator operand =
      other.comparedOperand layer operator operand := by
  unfold Context.comparedOperand
  split
  · exact envelopeLiteral_of_literalSrid literal _
  · exact geometryLiteral_of_sameService same _
  · rfl

omit same in
theorem boxOperand_of_literalSrid (operand : Option Element) :
    context.boxOperand layer operand = other.boxOperand layer operand := by
  unfold Context.boxOperand
  split
  · exact envelopeLiteral_of_literalSrid literal _
  · rfl

omit literal
include conversion

theorem convertedColumn_of_conversionSrid (operator : SpatialOperator)
    (operand : Option Element) :
    context.convertedColumn layer operator operand =
      other.convertedColumn layer operator operand := by
  unfold Context.convertedColumn
  rw [operandColumn_of_sameService same, conversion]

include literal

/-- The request acts on an operator through two srids only. -/
theorem fragment_of_sameSrids (element : Element) :
    context.fragment layer element = other.fragment layer element := by
  unfold Context.fragment
  cases SpatialOperator.ofName? element.name with
  | none => rfl
  | some operator =>
    cases family : operator.family with
    | topological predicate =>
      simp only [family, Context.topologicalSql, convertedColumn_of_conversionSrid same conversion,
        comparedOperand_of_literalSrid same literal]
    | distance comparator => simp only [family, comparison_of_sameService same]
    | box =>
      simp only [family, Context.boxSql, convertedColumn_of_conversionSrid same conversion,
        boxOperand_of_literalSrid literal]

end SameSrids

/-- For a configured layer these two are one srid. -/
theorem fragment_of_comparedSrid {layer : String} {stored : Layer}
    (configured : context.catalog.get? layer = some stored)
    (srid : context.comparedSrid stored = other.comparedSrid stored) (element : Element) :
    context.fragment layer element = other.fragment layer element := by
  have configured' : other.catalog.get? layer = some stored := same.catalog ▸ configured
  apply fragment_of_sameSrids same
  · rw [literalSrid_of_configured configured, literalSrid_of_configured configured', srid]
  · rw [conversionSrid_of_configured configured, conversionSrid_of_configured configured', srid]

/-- What a distance compiles to does not depend on the request. -/
theorem fragment_of_distance {element : Element}
    (distance : element.name = "DWithin" ∨ element.name = "Beyond") (layer : String) :
    context.fragment layer element = other.fragment layer element := by
  have family : ∃ comparator, (element.name, comparator) ∈ distanceComparators := by
    rcases distance with named | named <;> simp [named, distanceComparators]
  obtain ⟨comparator, listed⟩ := family
  obtain ⟨operator, named, family⟩ := distance_iff.mpr listed
  unfold Context.fragment
  simp only [named, family, comparison_of_sameService same]

end SameService

theorem addOperator_of_fragment {context other : Context} {layer : String} {element : Element}
    (same : context.fragment layer element = other.fragment layer element) (draft : Draft) :
    draft.addOperator context layer element = draft.addOperator other layer element := by
  rw [addOperator_eq, addOperator_eq, same]

/-- A request for the unset reference, or for one with the srid that the layer is stored in,
compiles every operator as no request does: to the same result, text and error.  A distance operator
compiles the same whatever is requested. -/
theorem redundant_request_changes_nothing {context : Context} {layer : String} {stored : Layer}
    (unrequested : context.requested = none)
    (configured : context.catalog.get? layer = some stored) (element : Element) (draft : Draft) :
    (∀ reference : SpatialReference, reference.isUnset = true ∨ reference.srid = stored.srid →
      draft.addOperator (context.withRequested reference) layer element =
        draft.addOperator context layer element) ∧
      (element.name = "DWithin" ∨ element.name = "Beyond" →
        ∀ one two : Context, context.SameService one → context.SameService two →
          draft.addOperator one layer element = draft.addOperator two layer element) := by
  constructor
  · intro reference redundant
    have srid : context.comparedSrid stored =
        (context.withRequested reference).comparedSrid stored := by
      rw [comparedSrid_withRequested]
      unfold Context.comparedSrid
      rw [unrequested]
      rcases redundant with unset | stored_srid
      · simp [unset]
      · simp [stored_srid]
    have same := fragment_of_comparedSrid (sameService_withRequested context reference) configured
      srid element
    exact addOperator_of_fragment same.symm draft
  · intro distance one two same same'
    have left := addOperator_of_fragment (fragment_of_distance same distance layer) draft
    have right := addOperator_of_fragment (fragment_of_distance same' distance layer) draft
    rw [← left, right]

/-- A service of roads whose translator takes any geometry for its first position, without a
request for a reference. -/
def positionService : Context :=
  { roadService with geometries := GeometryReader.referencedPoint }

/-- A request for the srid that the roads are stored in leaves their column as it is, while one for
degrees converts it.  A distance is left as it is by a request for degrees too. -/
theorem roads_requested_as_stored :
    (Draft.empty.addOperator (roadService.withRequested ⟨2154, "EPSG", 2154, false⟩) "roads"
          roadElement =
        Draft.empty.addOperator roadService "roads" roadElement ∧
      Draft.empty.addOperator roadService "roads" roadElement =
        (⟨"st_intersects(\"geom\",setsrid('BOX(1 2,3 4)'::box2d,2154))", none⟩, .ok ()) ∧
      Draft.empty.addOperator roadContext "roads" roadElement =
        (⟨"st_intersects(st_transform(\"geom\",4326),setsrid('BOX(1 2,3 4)'::box2d,4326))", none⟩,
          .ok ())) ∧
    Draft.empty.addOperator positionContext "roads" nearbyElement =
        Draft.empty.addOperator positionService "roads" nearbyElement ∧
      Draft.empty.addOperator positionService "roads" nearbyElement =
        (⟨"ST_Distance(ST_centroid(\"geom\"),ST_centroid('SRID=4326;POINT(1 2)')) < 1500", none⟩,
          .ok ()) := by
  obtain ⟨redundant, -⟩ :=
    @redundant_request_changes_nothing roadService "roads" roadLayer rfl rfl roadElement Draft.empty
  obtain ⟨-, distance⟩ :=
    @redundant_request_changes_nothing positionService "roads" roadLayer rfl rfl nearbyElement
      Draft.empty
  refine ⟨⟨?_, ?_, ?_⟩, ?_, ?_⟩
  · exact redundant ⟨2154, "EPSG", 2154, false⟩ (Or.inr rfl)
  · exact eq_ok_of_fst (by decide +kernel) (by decide +kernel)
  · exact eq_ok_of_fst (by decide +kernel) (by decide +kernel)
  · exact distance (Or.inl rfl) positionContext positionService ⟨rfl, rfl, rfl⟩ ⟨rfl, rfl, rfl⟩
  · exact eq_ok_of_fst (by decide +kernel) (by decide +kernel)

end SpatialFilter
