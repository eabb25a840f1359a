import SpatialFilter.Database.Row

/-!
# Spatial references

A spatial reference is known to the database by its srid and to the world by an authority and
a code, such as `EPSG:4326`.  Data without a known coordinate system has the unset reference.
-/

namespace SpatialFilter

open SpatialFilter.Number
open SpatialFilter.Database

def unsetSrid : Int32 := -1

/-- The srid of geographic coordinates on the world datum. -/
def geographicSrid : Int32 := 4326

/-- A resolved or unset coordinate reference. -/
structure SpatialReference where
  srid : Int32
  authority : String
  code : Int32
  /-- Coordinates are angles. -/
  isAngular : Bool
  deriving DecidableEq, Repr

/-- A proj4 definition declares metres: one of its words is exactly `+units=m`. -/
def isMetricDefinition : Option String → Bool
  | none => false
  | some definition => (Text.words definition.toList).any fun word => word == "+units=m".toList

namespace SpatialReference

/-- The reference of data without a known coordinate system. -/
def unset : SpatialReference :=
  ⟨unsetSrid, "", 0, true⟩

def isUnset (reference : SpatialReference) : Bool :=
  reference.srid == unsetSrid

/-- Authority and code, such as `EPSG:4326`; the unset reference has no name. -/
def name? (reference : SpatialReference) : Option String :=
  if reference.isUnset then none
  else some (reference.authority ++ ":" ++ int32Text reference.code)

def text (reference : SpatialReference) : String :=
  match reference.name? with
  | some name => name ++ " (srid " ++ int32Text reference.srid ++ ")"
  | none => "unset"

/-- The reference with this srid, from the three cells `auth_name`, `auth_srid` and
`proj4text` that start at a column of a row. -/
def ofCells (srid : Int32) (row : Row) (first : Nat) : Except QueryError SpatialReference := do
  let authority ← row.text first
  let code ← row.int (first + 1)
  let definition ← row.optionalText (first + 2)
  return ⟨srid, authority, code, !isMetricDefinition definition⟩

end SpatialReference

/-- Why a reference could not be resolved. -/
inductive ReferenceError where
  | missingCode (authority : String) (code : Int32)
  | missingSrid (srid : Int32)
  | unknownName (name : String)
  | engine (error : QueryError)
  deriving DecidableEq, Repr

namespace ReferenceError

def message : ReferenceError → String
  | .missingCode authority code =>
    "no unique spatial_ref_sys entry for " ++ authority ++ ":" ++ int32Text code
  | .missingSrid srid => "no unique spatial_ref_sys entry for srid " ++ int32Text srid
  | .unknownName name => s!"unrecognized srsName `{name}`"
  | .engine error => error.message

/-- The catalog has no single entry; nothing else went wrong. -/
def isMissing : ReferenceError → Bool
  | .missingCode .. => true
  | .missingSrid _ => true
  | _ => false

end ReferenceError

end SpatialFilter
