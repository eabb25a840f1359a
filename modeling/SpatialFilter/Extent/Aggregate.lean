import SpatialFilter.Extent.Basic
import SpatialFilter.Layer.Catalog
import SpatialFilter.Reference.Lookup

/-!
# The common extent of layers

One query asks for the extent of every geometry column of several layers, each layer
restricted by a row filter of its own.  The answer takes the reference of the first layer.
-/

namespace SpatialFilter

open SpatialFilter.Number
open SpatialFilter.Database

/-- A computation on extents that looks up layers. -/
abbrev ExtentOperation := Lookup (Interruption ExtentError)

namespace Extent

/-- One geometry column of a layer's table under a row filter, as a subquery.  Blanks at the
end of the filter do not count. -/
def branch (layer : Layer) (filter column : String) : String :=
  let selection := "(SELECT " ++ Sql.quoteIdentifier column ++ "::geometry AS \"the_geom\" FROM " ++
    layer.tableName ++ " " ++ filter
  String.ofList (Text.trimEnd selection.toList) ++ ")"

/-- The subqueries of layers with their filters: layer by layer, and within a layer column by
column. -/
def branches (catalog : LayerCatalog) : List (String × String) →
    Except (Interruption ExtentError) (List String)
  | [] => .ok []
  | (name, filter) :: rest => do
    let layer ← catalog.require name
    let others ← branches catalog rest
    return layer.geometryColumns.map (branch layer filter) ++ others

def aggregateQuery (branches : List String) : String :=
  "SELECT ST_XMin(g.extent), ST_YMin(g.extent), ST_XMax(g.extent), ST_YMax(g.extent) " ++
    "FROM (SELECT ST_Extent(foo.the_geom) AS extent FROM (" ++
    String.intercalate " UNION ALL " branches ++ ") AS foo) AS g"

/-- The first four cells of a row as coordinates. -/
def ofRow (row : Row) (reference : SpatialReference) : Except QueryError Extent := do
  let xmin ← row.number 0
  let ymin ← row.number 1
  let xmax ← row.number 2
  let ymax ← row.number 3
  return ⟨xmin, ymin, xmax, ymax, reference⟩

/-- The extent in the answer to an aggregate query, for layers the first of which is stored
under `srid`.  No row, or NULL for a coordinate, means that there is no data. -/
def ofAnswer (srid : Int32) (rows : List Row) : Lookup ExtentError Extent :=
  match rows with
  | [] => pure unbounded
  | row :: _ =>
    if (List.range 4).any row.isNull then pure unbounded
    else do
      let reference ← (SpatialReference.resolveSrid srid).adapt ExtentError.reference
      liftExcept .engine (ofRow row reference)

/-- The common extent of layers under the filters at the same positions.  Without layers, or
with another number of filters, it is unbounded and nothing is asked. -/
def aggregate (catalog : LayerCatalog) (layers filters : List String) :
    ExtentOperation Extent := do
  if layers.length != filters.length then return unbounded
  match layers with
  | [] => return unbounded
  | first :: _ =>
    let parts ← liftExcept id (branches catalog (layers.zip filters))
    let srid ← liftExcept id (catalog.srid first)
    let rows ← query (fun error => .failed (.engine error)) (aggregateQuery parts)
    (ofAnswer srid rows).adapt .failed

end Extent

end SpatialFilter
