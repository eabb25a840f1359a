import SpatialFilter.Database.Row

/-!
# Numbers and boxes in SQL

Every number that reaches a query is written by `number`, in its shortest plain form, so that
the database reads back the same value.  NaN and the infinities have no such form.
-/

namespace SpatialFilter.Sql

open SpatialFilter.Number
open SpatialFilter.Database

/-- A finite number as an SQL literal. -/
def number (value : Binary64) : Except QueryError String :=
  if value.isFinite then .ok value.text else .error (.nonFinite value)

/-- Two opposite corners as `BOX(xmin ymin,xmax ymax)`. -/
def cornersText (xmin ymin xmax ymax : Binary64) : Except QueryError String := do
  let x₀ ← number xmin
  let y₀ ← number ymin
  let x₁ ← number xmax
  let y₁ ← number ymax
  return s!"BOX({x₀} {y₀},{x₁} {y₁})"

/-- A box literal that carries its spatial reference. -/
def boxLiteral (xmin ymin xmax ymax : Binary64) (srid : Int32) : Except QueryError String := do
  let box ← cornersText xmin ymin xmax ymax
  return "setsrid('" ++ box ++ "'::box2d," ++ int32Text srid ++ ")"

end SpatialFilter.Sql
