import SpatialFilter.Filter.Context
import SpatialFilter.Reference.Name
import SpatialFilter.Sql.Quoting

/-!
# Standard collaborators

Resolvers that take properties for columns, and translators that read points.
-/

namespace SpatialFilter

open SpatialFilter.Number
open SpatialFilter.Markup

namespace ColumnMap

/-- A property is the name of a column. -/
def quoted : ColumnMap := fun _ property =>
  if property = "" then Outcome.fail (.structural .emptyProperty)
  else .ok (Sql.quoteIdentifier property)

/-- A property is the name of a column of the table that the layer names. -/
def ofTable : ColumnMap := fun layer property =>
  .ok (Sql.quoteIdentifier layer ++ "." ++ Sql.quoteIdentifier property)

/-- A property is one of the geometry columns of the layer. -/
def ofCatalog (catalog : LayerCatalog) : ColumnMap := fun name property => do
  let layer ← catalog.require name
  if layer.geometryColumns.contains property then
    return layer.tableName ++ "." ++ Sql.quoteIdentifier property
  else Outcome.fail (.structural (.unknownColumn layer.name property))

end ColumnMap

namespace GeometryReader

/-- The text of the first child element, or nothing. -/
def position (element : Element) : List Char :=
  match element.elements with
  | first :: _ => first.text.toList
  | [] => []

def pointText (srid : Int32) (position : List Char) : String :=
  "SRID=" ++ int32Text srid ++ ";POINT(" ++ String.ofList (Text.trim position) ++ ")"

/-- Points only, in geographic coordinates.  Commas in the position count as spaces. -/
def point : GeometryReader := fun element =>
  if element.name = "Point" then
    .ok (pointText geographicSrid
      ((position element).map fun c => if c = ',' then ' ' else c))
  else Outcome.fail (.structural (.untranslatable element.name))

/-- Any element with a child as a point, in the reference that it names if that is
understood. -/
def referencedPoint : GeometryReader := fun element =>
  if element.elements.isEmpty then Outcome.fail (.structural .emptyGeometry)
  else
    let name := (element.attribute? "srsName").getD "EPSG:4326"
    .ok (pointText ((sridOfName? name).getD geographicSrid) (position element))

end GeometryReader

end SpatialFilter
