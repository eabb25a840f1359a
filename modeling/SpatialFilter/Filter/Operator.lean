/-!
# Spatial operators

The eleven operators of a spatial filter, in three families.  Names are compared letter by
letter: the standard fixes their spelling.
-/

namespace SpatialFilter

inductive SpatialOperator where
  | equals
  | disjoint
  | touches
  | within
  | overlaps
  | crosses
  | intersects
  | contains
  | distanceWithin
  | beyond
  | box
  deriving DecidableEq, Repr

/-- How an operator is turned into SQL. -/
inductive OperatorFamily where
  /-- A predicate on a column and a geometry. -/
  | topological (predicate : String)
  /-- A comparison of the distance between centroids with a constant. -/
  | distance (comparator : String)
  /-- An intersection with an envelope. -/
  | box
  deriving DecidableEq, Repr

namespace SpatialOperator

/-- Every operator, once. -/
def all : List SpatialOperator :=
  [.equals, .disjoint, .touches, .within, .overlaps, .crosses, .intersects, .contains,
    .distanceWithin, .beyond, .box]

/-- The element name of an operator. -/
def name : SpatialOperator → String
  | .equals => "Equals"
  | .disjoint => "Disjoint"
  | .touches => "Touches"
  | .within => "Within"
  | .overlaps => "Overlaps"
  | .crosses => "Crosses"
  | .intersects => "Intersects"
  | .contains => "Contains"
  | .distanceWithin => "DWithin"
  | .beyond => "Beyond"
  | .box => "BBOX"

def ofName? (name : String) : Option SpatialOperator :=
  all.find? fun operator => operator.name == name

/-- The family of an operator.  Distances are compared strictly. -/
def family : SpatialOperator → OperatorFamily
  | .equals => .topological "ST_Equals"
  | .disjoint => .topological "ST_Disjoint"
  | .touches => .topological "ST_Touches"
  | .within => .topological "ST_Within"
  | .overlaps => .topological "ST_Overlaps"
  | .crosses => .topological "ST_Crosses"
  | .intersects => .topological "ST_Intersects"
  | .contains => .topological "ST_Contains"
  | .distanceWithin => .distance "<"
  | .beyond => .distance ">"
  | .box => .box

end SpatialOperator

end SpatialFilter
