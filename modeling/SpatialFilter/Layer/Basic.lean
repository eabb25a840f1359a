import SpatialFilter.Sql.Quoting

/-!
# Layers

A feature layer is backed by a database table with one or more geometry columns, all stored
in one spatial reference.
-/

namespace SpatialFilter

inductive CoordinateUnit where
  | meters
  | degrees
  deriving DecidableEq, Repr

def CoordinateUnit.name : CoordinateUnit → String
  | .meters => "meters"
  | .degrees => "degrees"

structure Layer where
  name : String
  schema : String
  /-- The reference that the geometry columns are stored in. -/
  srid : Int32
  unit : CoordinateUnit
  geometryColumns : List String
  deriving DecidableEq, Repr

namespace Layer

/-- The schema of a layer that names none. -/
def standardSchema : String := "public"

/-- The geometry columns of a layer that names none. -/
def standardGeometryColumns : List String := ["the_geom"]

def isAngular (layer : Layer) : Bool :=
  layer.unit == .degrees

/-- The layer's table with its schema, quoted. -/
def tableName (layer : Layer) : String :=
  Sql.tableName layer.schema layer.name

end Layer

end SpatialFilter
