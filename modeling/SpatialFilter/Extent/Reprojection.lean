import SpatialFilter.Extent.Revision
import SpatialFilter.Reference.Lookup

/-!
# Reprojecting extents

The reprojected coordinates and the target reference come back from a single query, so that a
new extent is made of one row or not at all.
-/

namespace SpatialFilter

open SpatialFilter.Number
open SpatialFilter.Database

namespace Extent

/-- The query for an extent in another reference, together with that reference. -/
def reprojectionQuery (extent : Extent) (target : Int32) : Except QueryError String := do
  let box ← Sql.cornersText extent.xmin extent.ymin extent.xmax extent.ymax
  let source := int32Text extent.reference.srid
  let srid := int32Text target
  return "SELECT ST_XMin(g.geom), ST_YMin(g.geom), ST_XMax(g.geom), ST_YMax(g.geom), " ++
    "s.auth_name, s.auth_srid, s.proj4text FROM (SELECT ST_Transform(ST_SetSRID('" ++ box ++
    "'::box2d::geometry, " ++ source ++ "), " ++ srid ++ ") AS geom) AS g, " ++
    "spatial_ref_sys AS s WHERE s.srid = " ++ srid

def ofReprojectionRow (target : Int32) (row : Row) : Except QueryError Extent := do
  let xmin ← row.number 0
  let ymin ← row.number 1
  let xmax ← row.number 2
  let ymax ← row.number 3
  let reference ← SpatialReference.ofCells target row 4
  return ⟨xmin, ymin, xmax, ymax, reference⟩

/-- Reprojects the extent at hand.  Both references must be set and the extent bounded. -/
def reproject (target : Int32) : Revision ExtentError Unit := do
  let extent ← get
  if extent.isUnbounded || extent.reference.isUnset || target == unsetSrid then
    throw (.unreferenced extent.text)
  else
    let text ← Revision.ofExcept .engine (extent.reprojectionQuery target)
    match ← Revision.ofLookup id (query .engine text) with
    | [row] =>
      Revision.replace (← Revision.ofExcept .engine (ofReprojectionRow target row))
    | _ => throw (.reference (.missingSrid target))

end Extent

end SpatialFilter
