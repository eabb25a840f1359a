import SpatialFilter.Filter.Operator
import SpatialFilter.Layer.Catalog
import SpatialFilter.Markup.Fault
import SpatialFilter.Reference.Basic

/-!
# Why a filter does not compile

All errors but one end the compilation of an operator.  The exception is a unit of distance
that is not supported: it is noted and compilation goes on.
-/

namespace SpatialFilter

open SpatialFilter.Number
open SpatialFilter.Database

/-- What is wrong with the arrangement of a filter's elements. -/
inductive StructureFault where
  | notOneOperator
  | noProperty (operator : SpatialOperator)
  | noGeometry (operator : SpatialOperator)
  | noEnvelope
  | noDistance (operator : SpatialOperator)
  | notAnEnvelope (name : String)
  | noCorners
  | noCoordinates
  | noCoordPair
  | noAxis (name : String)
  | notTwoCorners (coordinates : String)
  | notTwoCoordinates (position : String)
  | emptyProperty
  | unknownColumn (layer property : String)
  | untranslatable (name : String)
  | emptyGeometry
  /-- A fault that a collaborator found, in its own words. -/
  | reported (detail : String)
  deriving DecidableEq, Repr

def StructureFault.message : StructureFault → String
  | .notOneOperator => "Filter must hold exactly one spatial operator"
  | .noProperty operator => operator.name ++ " needs a property name as first operand"
  | .noGeometry operator => operator.name ++ " needs a geometry as second operand"
  | .noEnvelope => "BBOX needs a Box or Envelope as second operand"
  | .noDistance operator => operator.name ++ " needs a Distance element"
  | .notAnEnvelope name => s!"expected Box or Envelope, found {name}"
  | .noCorners => "Envelope needs a lower and an upper corner"
  | .noCoordinates => "Box has no coordinates"
  | .noCoordPair => "Box needs two coord elements"
  | .noAxis name => s!"coord without {name}"
  | .notTwoCorners coordinates => s!"Box coordinates need two corners, got `{coordinates}`"
  | .notTwoCoordinates position => s!"position `{position}` needs two coordinates"
  | .emptyProperty => "empty property name"
  | .unknownColumn layer property => s!"{layer} has no geometry column {property}"
  | .untranslatable name => s!"cannot translate {name}"
  | .emptyGeometry => "empty geometry"
  | .reported detail => detail

/-- Why a filter does not compile. -/
inductive FilterError where
  | malformedNumber (text : String)
  | structural (fault : StructureFault)
  /-- The name of a reference does not mention the srid in use. -/
  | mismatchedReference (name : String) (srid : Int32)
  | reference (error : ReferenceError)
  | unsupportedUnit (unit : String)
  | unknownOperator (name : String)
  | engine (error : QueryError)
  | markup (fault : Markup.Fault)
  deriving DecidableEq, Repr

namespace FilterError

/-- A query error as one of a filter.  A number that cannot be written is malformed. -/
def ofQueryError : QueryError → FilterError
  | .nonFinite value => .malformedNumber value.text
  | error => .engine error

def message : FilterError → String
  | .malformedNumber text => s!"malformed number `{text}`"
  | .structural fault => "unexpected filter structure: " ++ fault.message
  | .mismatchedReference name srid =>
    s!"srsName `{name}` does not match srid " ++ int32Text srid
  | .reference error => error.message
  | .unsupportedUnit unit => s!"unsupported distance unit `{unit}`"
  | .unknownOperator name => s!"`{name}` is not a spatial operator"
  | .engine error => error.message
  | .markup fault => "malformed XML: " ++ fault.message

/-- A fixed word for the kind of an error, for reports to clients. -/
def kind : FilterError → String
  | .malformedNumber _ => "ParseError"
  | .structural _ => "StructuralError"
  | .mismatchedReference .. => "SrsMismatchError"
  | .reference (.unknownName _) => "UnrecognizedSrsNameError"
  | .reference (.engine _) => "EngineError"
  | .reference _ => "SrsNotFoundError"
  | .unsupportedUnit _ => "UnitsError"
  | .unknownOperator _ => "UnknownOperatorError"
  | .engine _ => "EngineError"
  | .markup _ => "XmlError"

/-- The error ends the compilation of an operator. -/
def isHalting : FilterError → Bool
  | .unsupportedUnit _ => false
  | _ => true

end FilterError

/-- The result of a computation on a filter, which may have to look up a layer. -/
abbrev Outcome := Except (Interruption FilterError)

def Outcome.fail {α : Type} (error : FilterError) : Outcome α :=
  .error (.failed error)

/-- A result that needs no layer. -/
def Outcome.ofExcept {α : Type} (result : Except FilterError α) : Outcome α :=
  result.mapError .failed

end SpatialFilter
