import SpatialFilter.Filter.Collaborator
import SpatialFilter.Proofs.Fragment

/-!
# Configured layers

A layer that the service does not have is no failure of a request; it interrupts the compilation.
For a configured layer the compilation itself never comes to that.  It ends in a value or in a
failure, as long as its collaborators do (`fragment_answers`).
-/

namespace SpatialFilter

open SpatialFilter.Number
open SpatialFilter.Markup

/-- A value or a failure of the request. -/
def Outcome.Answers {α : Type} (outcome : Outcome α) : Prop :=
  ∀ name, outcome ≠ .error (.unconfigured name)

/-- The collaborators of a context answer every question that a compilation for the layer puts:
they return a text or a failure. -/
structure Context.CollaboratorsAnswer (context : Context) (layer : String) : Prop where
  columns : ∀ property, Outcome.Answers (context.columns layer property)
  geometries : ∀ element, Outcome.Answers (context.geometries element)

namespace Outcome

variable {α β : Type}

theorem answers_ok (value : α) : Answers (.ok value) := nofun

theorem answers_fail (error : FilterError) : Answers (fail error : Outcome α) := nofun

theorem answers_ofExcept (result : Except FilterError α) : Answers (ofExcept result) := by
  cases result with
  | ok value => exact answers_ok value
  | error error => exact answers_fail error

theorem answers_rendered (result : Except Database.QueryError α) : Answers (rendered result) := by
  cases result with
  | ok value => exact answers_ok value
  | error error => exact answers_fail _

theorem Answers.bind {outcome : Outcome α} {next : α → Outcome β} (first : outcome.Answers)
    (second : ∀ value, (next value).Answers) : (outcome >>= next).Answers := by
  cases outcome with
  | ok value => exact second value
  | error interruption =>
    intro name unconfigured
    cases unconfigured
    exact first name rfl

end Outcome

open Outcome

section Configured

variable {context : Context} {layer : String} {stored : Layer}

theorem srid_of_configured {ε : Type} {catalog : LayerCatalog}
    (configured : catalog.get? layer = some stored) :
    catalog.srid layer = (.ok stored.srid : Except (Interruption ε) Int32) := by
  simp [LayerCatalog.srid, LayerCatalog.require, configured, Except.map]

theorem srid_answers (configured : context.catalog.get? layer = some stored) :
    Outcome.Answers (context.catalog.srid layer) := by
  rw [srid_of_configured configured]
  exact answers_ok _

theorem isMetric_answers (configured : context.catalog.get? layer = some stored) :
    Outcome.Answers (context.catalog.isMetric layer) := by
  simp only [LayerCatalog.isMetric, LayerCatalog.require, configured]
  exact answers_ok _

theorem literalSrid_answers (configured : context.catalog.get? layer = some stored) :
    (context.literalSrid layer).Answers := by
  unfold Context.literalSrid
  cases context.requested with
  | none => exact srid_answers configured
  | some reference => exact answers_ok _

theorem conversionSrid_answers (configured : context.catalog.get? layer = some stored) :
    (context.conversionSrid layer).Answers := by
  unfold Context.conversionSrid
  cases context.requested with
  | none => exact answers_ok _
  | some reference => exact (srid_answers configured).bind fun _ => answers_ok _

theorem envelopeLiteral_answers (configured : context.catalog.get? layer = some stored)
    (element : Element) : (context.envelopeLiteral layer element).Answers := by
  unfold Context.envelopeLiteral
  refine (literalSrid_answers configured).bind fun srid => ?_
  have rest : Answers (do
      let envelope ← Outcome.ofExcept (Envelope.ofElement element)
      rendered (Sql.boxLiteral envelope.lower.x envelope.lower.y envelope.upper.x envelope.upper.y
        srid)) :=
    (answers_ofExcept _).bind fun _ => answers_rendered _
  cases element.attribute? "srsName" with
  | none => exact rest
  | some reference =>
    dsimp only
    split
    · exact (answers_fail _).bind fun _ => rest
    · exact rest

variable (answers : context.CollaboratorsAnswer layer)

include answers

theorem geometryLiteral_answers (element : Element) : (context.geometryLiteral element).Answers :=
  (answers.geometries element).bind fun _ => answers_ok _

theorem operandColumn_answers (operator : SpatialOperator) (operand : Option Element) :
    (context.operandColumn layer operator operand).Answers := by
  unfold Context.operandColumn
  split
  · exact answers.columns _
  · exact answers_fail _

theorem measuredOperand_answers (operator : SpatialOperator) (operand : Option Element) :
    (context.measuredOperand operator operand).Answers := by
  unfold Context.measuredOperand
  split
  · exact geometryLiteral_answers answers _
  · exact geometryLiteral_answers answers _
  · exact answers_fail _

theorem convertedColumn_answers (configured : context.catalog.get? layer = some stored)
    (operator : SpatialOperator) (operand : Option Element) :
    (context.convertedColumn layer operator operand).Answers := by
  unfold Context.convertedColumn
  refine (operandColumn_answers answers operator operand).bind fun column => ?_
  refine (conversionSrid_answers configured).bind fun conversion => ?_
  cases conversion <;> exact answers_ok _

theorem topologicalSql_answers (configured : context.catalog.get? layer = some stored)
    (operator : SpatialOperator) (predicate : String) (operands : List Element) :
    (context.topologicalSql layer operator predicate operands).Answers := by
  unfold Context.topologicalSql
  refine (convertedColumn_answers answers configured operator _).bind fun column => ?_
  refine Answers.bind ?_ fun geometry => answers_ok _
  unfold Context.comparedOperand
  split
  · exact envelopeLiteral_answers configured _
  · exact geometryLiteral_answers answers _
  · exact answers_fail _

theorem comparison_answers (configured : context.catalog.get? layer = some stored)
    (operator : SpatialOperator) (comparator : String) (operands : List Element) :
    (context.comparison layer operator comparator operands).Answers := by
  unfold Context.comparison
  refine (isMetric_answers configured).bind fun metric => ?_
  refine (operandColumn_answers answers operator _).bind fun column => ?_
  refine (measuredOperand_answers answers operator _).bind fun geometry => ?_
  refine Answers.bind ?_ fun limit => answers_ok _
  unfold Context.limitOperand
  split
  · exact answers_ofExcept _
  · exact answers_fail _

theorem boxSql_answers (configured : context.catalog.get? layer = some stored)
    (operands : List Element) : (context.boxSql layer operands).Answers := by
  unfold Context.boxSql
  refine (convertedColumn_answers answers configured _ _).bind fun column => ?_
  refine Answers.bind ?_ fun envelope => answers_ok _
  unfold Context.boxOperand
  split
  · exact envelopeLiteral_answers configured _
  · exact answers_fail _

/-- For a configured layer an operator has a fragment or fails. -/
theorem fragment_answers (configured : context.catalog.get? layer = some stored)
    (element : Element) : (context.fragment layer element).Answers := by
  unfold Context.fragment
  cases SpatialOperator.ofName? element.name with
  | none => exact answers_fail _
  | some operator =>
    dsimp only
    split
    · exact (topologicalSql_answers answers configured _ _ _).bind fun _ => answers_ok _
    · refine (comparison_answers answers configured _ _ _).bind fun comparison => ?_
      exact (answers_rendered _).bind fun _ => answers_ok _
    · exact (boxSql_answers answers configured _).bind fun _ => answers_ok _

end Configured

/-! ## A service of roads -/

/-- A layer of roads in metres. -/
def roadLayer : Layer :=
  ⟨"roads", "public", 2154, .meters, ["geom"]⟩

/-- A request for geographic coordinates from a service with that layer. -/
def roadContext : Context :=
  (Context.ofCatalog ⟨[roadLayer], by decide⟩ ColumnMap.quoted GeometryReader.point).withRequested
    ⟨geographicSrid, "EPSG", geographicSrid, true⟩

theorem roadContext_answers : roadContext.CollaboratorsAnswer "roads" where
  columns := by
    intro property
    change Outcome.Answers (if property = "" then _ else _)
    split
    · exact answers_fail _
    · exact answers_ok _
  geometries := by
    intro element
    change Outcome.Answers (if element.name = "Point" then _ else _)
    split
    · exact answers_ok _
    · exact answers_fail _

end SpatialFilter
