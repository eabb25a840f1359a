import SpatialFilter.Filter.Context
import SpatialFilter.Filter.Draft
import SpatialFilter.Filter.Operand
import SpatialFilter.Markup.Document
import SpatialFilter.Sql.Literal

/-!
# Compiling spatial operators

Each operator becomes one SQL fragment, which is added to a draft when it is complete; an
operator that fails adds no text.  Only a unit of distance that is not supported is noted before
the fragment is complete.  Topological operators and boxes compare a column with a
geometry in the same reference: the column is transformed when the request asks for another
reference than its own.  Distances are between centroids and are given in metres, on the
sphere where the layer's coordinates are angles.
-/

namespace SpatialFilter

open SpatialFilter.Number
open SpatialFilter.Markup

/-- A distance to be compared with a limit. -/
structure Comparison where
  /-- The SQL up to the limit. -/
  left : String
  /-- The limit. -/
  meters : Binary64
  /-- The unit of the limit, when it was taken for metres because it is not supported. -/
  unsupportedUnit : Option String
  deriving DecidableEq, Repr

/-- A rendered value, with its query error as one of a filter. -/
def rendered {α : Type} (result : Except Database.QueryError α) : Outcome α :=
  result.mapError fun error => .failed (.ofQueryError error)

namespace Context

/-- An envelope element as a box literal.  A reference name on the element has to mention the
srid in use. -/
def envelopeLiteral (context : Context) (layer : String) (element : Element) : Outcome String := do
  let srid ← context.literalSrid layer
  if let some name := element.attribute? "srsName" then
    if !Text.occursIn (int32Text srid).toList name.toList then
      Outcome.fail (.mismatchedReference name srid)
  let envelope ← Outcome.ofExcept (Envelope.ofElement element)
  rendered (Sql.boxLiteral envelope.lower.x envelope.lower.y envelope.upper.x envelope.upper.y
    srid)

def geometryLiteral (context : Context) (element : Element) : Outcome String := do
  return Sql.textLiteral (← context.geometries element)

/-- The column of the first operand, which must be the name of a property. -/
def operandColumn (context : Context) (layer : String) (operator : SpatialOperator)
    (operand : Option Element) : Outcome String :=
  match operand.map Operand.ofElement with
  | some (.property name) => context.columns layer name
  | _ => Outcome.fail (.structural (.noProperty operator))

/-- The column of the first operand in the reference that literals are written in. -/
def convertedColumn (context : Context) (layer : String) (operator : SpatialOperator)
    (operand : Option Element) : Outcome String := do
  let column ← context.operandColumn layer operator operand
  match ← context.conversionSrid layer with
  | some srid => return "st_transform(" ++ column ++ "," ++ int32Text srid ++ ")"
  | none => return column

/-- The second operand of a topological predicate: an envelope, or a geometry to translate. -/
def comparedOperand (context : Context) (layer : String) (operator : SpatialOperator)
    (operand : Option Element) : Outcome String :=
  match operand.map Operand.ofElement with
  | some (.envelope element) => context.envelopeLiteral layer element
  | some (.geometry element) => context.geometryLiteral element
  | _ => Outcome.fail (.structural (.noGeometry operator))

def topologicalSql (context : Context) (layer : String) (operator : SpatialOperator)
    (predicate : String) (operands : List Element) : Outcome String := do
  let column ← context.convertedColumn layer operator operands[0]?
  let geometry ← context.comparedOperand layer operator operands[1]?
  return predicate ++ "(" ++ column ++ "," ++ geometry ++ ")"

/-- How a distance in a unit is turned into metres: the factor, and the unit itself when it is
not supported. -/
def unitFactor (unit : Option String) : Option Binary64 × Option String :=
  match unit with
  | some "meters" => (none, none)
  | some "#metre" => (none, none)
  | some "kilometers" => (some (Decimal.toBinary64 ⟨1000, 0⟩ false), none)
  | some "#kilometre" => (some (Decimal.toBinary64 ⟨1000, 0⟩ false), none)
  | other => (none, some (other.getD ""))

/-- A distance element as a number of metres, and its unit when that is not supported. -/
def readDistance (element : Element) : Except FilterError (Binary64 × Option String) := do
  let value ← readNumber element.text.toList
  let (factor, unsupported) := unitFactor (element.attribute? "units")
  match factor with
  | some factor => return (value.mul factor, unsupported)
  | none => return (value, unsupported)

/-- The second operand of a distance, which is translated even when it is an envelope. -/
def measuredOperand (context : Context) (operator : SpatialOperator) (operand : Option Element) :
    Outcome String :=
  match operand.map Operand.ofElement with
  | some (.envelope element) => context.geometryLiteral element
  | some (.geometry element) => context.geometryLiteral element
  | _ => Outcome.fail (.structural (.noGeometry operator))

/-- The limit of a distance and its unit when that is not supported, from a `Distance` element. -/
def limitOperand (operator : SpatialOperator) (operand : Option Element) :
    Outcome (Binary64 × Option String) :=
  match operand.filter fun element => element.name == "Distance" with
  | some element => Outcome.ofExcept (readDistance element)
  | none => Outcome.fail (.structural (.noDistance operator))

def comparison (context : Context) (layer : String) (operator : SpatialOperator)
    (comparator : String) (operands : List Element) : Outcome Comparison := do
  let metric ← context.catalog.isMetric layer
  let measure := if metric then "ST_Distance" else "ST_Distance_sphere"
  let column ← context.operandColumn layer operator operands[0]?
  let geometry ← context.measuredOperand operator operands[1]?
  let (meters, unsupported) ← limitOperand operator operands[2]?
  return ⟨measure ++ "(ST_centroid(" ++ column ++ "),ST_centroid(" ++ geometry ++ ")) " ++
    comparator ++ " ", meters, unsupported⟩

def boxOperand (context : Context) (layer : String) (operand : Option Element) : Outcome String :=
  match operand.map Operand.ofElement with
  | some (.envelope element) => context.envelopeLiteral layer element
  | _ => Outcome.fail (.structural .noEnvelope)

def boxSql (context : Context) (layer : String) (operands : List Element) : Outcome String := do
  let column ← context.convertedColumn layer .box operands[0]?
  let envelope ← context.boxOperand layer operands[1]?
  return "st_intersects(" ++ column ++ "," ++ envelope ++ ")"

/-- Adds a comparison to the draft at hand.  A unit that is not supported is noted before the
limit is written. -/
def addComparison (comparison : Comparison) : Drafting Unit := do
  if let some unit := comparison.unsupportedUnit then
    Drafting.note (.unsupportedUnit unit)
  let limit ← Drafting.ofOutcome (rendered (Sql.number comparison.meters))
  Drafting.append (comparison.left ++ limit)

def compileOperator (context : Context) (layer : String) (element : Element) : Drafting Unit :=
  match SpatialOperator.ofName? element.name with
  | none => Drafting.ofOutcome (Outcome.fail (.unknownOperator element.name))
  | some operator =>
    match operator.family with
    | .topological predicate => do
      Drafting.append (← Drafting.ofOutcome
        (context.topologicalSql layer operator predicate element.elements))
    | .distance comparator => do
      addComparison (← Drafting.ofOutcome
        (context.comparison layer operator comparator element.elements))
    | .box => do
      Drafting.append (← Drafting.ofOutcome (context.boxSql layer element.elements))

end Context

namespace Draft

/-- Compiles an operator element at the end of a draft.  An error is noted in the draft as
well; a layer that the service does not have is not. -/
def addOperator (context : Context) (layer : String) (draft : Draft) (element : Element) :
    Draft × Outcome Unit :=
  let (outcome, after) := (context.compileOperator layer element).run.run draft
  match outcome with
  | .error (.failed error) => (after.note error, outcome)
  | _ => (after, outcome)

/-- A change of the draft at hand. -/
inductive Step where
  | text (added : String)
  | error (noted : FilterError)
  | operator (context : Context) (layer : String) (element : Element)

/-- One step: the draft after it, and how it ended. -/
def step (draft : Draft) : Step → Draft × Outcome Unit
  | .text added => (draft.append added, .ok ())
  | .error noted => (draft.note noted, .ok ())
  | .operator context layer element => draft.addOperator context layer element

def afterAll (draft : Draft) (steps : List Step) : Draft :=
  steps.foldl (fun draft step => (draft.step step).1) draft

end Draft

namespace Context

/-- The operator in the root element of a filter: the root itself, or the only element in it
when it is a `Filter`. -/
def operatorOfRoot (root : Element) : Except FilterError Element :=
  if root.name = "Filter" then
    match root.elements with
    | [operator] => .ok operator
    | _ => .error (.structural .notOneOperator)
  else .ok root

def compileDocument (context : Context) (layer document : String) : Outcome String := do
  let root ← (Element.parse document).mapError fun fault => .failed (.markup fault)
  let operator ← Outcome.ofExcept (operatorOfRoot root)
  match Draft.empty.addOperator context layer operator with
  | (_, .error (.unconfigured name)) => .error (.unconfigured name)
  | (draft, _) => Outcome.ofExcept draft.predicate

end Context

end SpatialFilter
