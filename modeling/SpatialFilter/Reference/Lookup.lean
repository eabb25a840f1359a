import SpatialFilter.Database.Inquiry
import SpatialFilter.Reference.Basic
import SpatialFilter.Reference.Name
import SpatialFilter.Sql.Quoting

/-!
# Looking up spatial references

References are resolved against the catalog table `spatial_ref_sys`.  Nothing is remembered
between lookups: each puts one query, and a lookup of the unset srid or of a name that is not
understood puts none.  Where the catalog does not have exactly one entry, the reference is not
found; everything else that goes wrong is an error of the engine.
-/

namespace SpatialFilter

open SpatialFilter.Number
open SpatialFilter.Database

/-- A computation on the catalog of references. -/
abbrev ReferenceLookup := Lookup ReferenceError

def readCells {α : Type} (cells : Except QueryError α) : ReferenceLookup α :=
  liftExcept ReferenceError.engine cells

namespace SpatialReference

def queryByCode (authority : String) (code : Int32) : String :=
  "SELECT srid, proj4text FROM spatial_ref_sys WHERE auth_name=" ++
    Sql.textLiteral authority ++ " AND auth_srid=" ++ int32Text code

def queryBySrid (srid : Int32) : String :=
  "SELECT auth_name, auth_srid, proj4text FROM spatial_ref_sys WHERE srid=" ++ int32Text srid

def queryLabel (srid : Int32) : String :=
  "SELECT auth_name||':'||auth_srid AS srs FROM spatial_ref_sys WHERE srid=" ++ int32Text srid

/-- The reference of an authority and a code, from a row of srid and `proj4text`. -/
def ofCodeRow (authority : String) (code : Int32) (row : Row) :
    Except QueryError SpatialReference := do
  let srid ← row.int 0
  let definition ← row.optionalText 1
  return ⟨srid, authority, code, !isMetricDefinition definition⟩

def resolveCode (authority : String) (code : Int32) : ReferenceLookup SpatialReference := do
  match ← query .engine (queryByCode authority code) with
  | [row] => readCells (ofCodeRow authority code row)
  | _ => throw (.missingCode authority code)

def resolveSrid (srid : Int32) : ReferenceLookup SpatialReference :=
  if srid = unsetSrid then pure unset
  else do
    match ← query .engine (queryBySrid srid) with
    | [row] => readCells (ofCells srid row 0)
    | _ => throw (.missingSrid srid)

def resolveName (name : String) : ReferenceLookup SpatialReference :=
  match sridOfName? name with
  | some srid => resolveSrid srid
  | none => throw (.unknownName name)

/-- The label of a srid, such as `EPSG:4326`, if the catalog has exactly one entry for it. -/
def label? (srid : Int32) : ReferenceLookup (Option String) := do
  match ← query .engine (queryLabel srid) with
  | [row] => readCells (row.optionalText 0)
  | _ => pure none

/-- The labels of several srids, position for position; one without a label gives an empty
text. -/
def labels : List Int32 → ReferenceLookup (List String)
  | [] => pure []
  | srid :: rest => do
    let label ← label? srid
    let others ← labels rest
    return label.getD "" :: others

end SpatialReference

end SpatialFilter
