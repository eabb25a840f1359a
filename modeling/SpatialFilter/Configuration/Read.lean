import SpatialFilter.Configuration.Basic
import SpatialFilter.Json.Value

/-!
# Reading configurations

Layers and configurations are objects, whose unknown members are passed over, or arrays of
their fields in order.  A field that has a default may be missing; in an array only at the
end.
-/

namespace SpatialFilter

open SpatialFilter.Json

/-- The fields of a layer that have been read so far. -/
structure PartialLayer where
  name : Option String
  schema : Option String
  srid : Option Int32
  unit : Option CoordinateUnit
  geometryColumns : Option (List String)

namespace PartialLayer

def empty : PartialLayer :=
  ⟨none, none, none, none, none⟩

/-- The layer, if no field without a default is missing. -/
def complete (fields : PartialLayer) : Except Fault Layer :=
  match fields.name, fields.srid, fields.unit with
  | none, _, _ => .error (.misfit (.missingField "name"))
  | _, none, _ => .error (.misfit (.missingField "srid"))
  | _, _, none => .error (.misfit (.missingField "unit"))
  | some name, some srid, some unit =>
    .ok ⟨name, fields.schema.getD Layer.standardSchema, srid, unit,
      fields.geometryColumns.getD Layer.standardGeometryColumns⟩

end PartialLayer

namespace Configuration

def scanColumns : Scanner (List String) :=
  array "a sequence" text

def unitOfName (name : String) : Scanner CoordinateUnit :=
  if name = "meters" then pure .meters
  else if name = "degrees" then pure .degrees
  else throw (.misfit (.unknownVariant name "`meters` or `degrees`"))

/-- A unit: its name, or an object with the name as its only key and null as its value. -/
def scanUnit : Scanner CoordinateUnit := do
  match ← peek with
  | none => throw .truncated
  | some c =>
    if c = '"' then
      advance
      unitOfName (← stringContent)
    else if c = '\x7b' then
      advance
      expectChar '"'
      let unit ← unitOfName (← stringContent)
      expectChar ':'
      if (← peek).isNone then throw .truncated
      match ← found with
      | .null =>
        expectChar '\x7d'
        return unit
      | other => throw (.misfit (.wrongType other "unit"))
    else throw .malformed

/-- The value of a member that must not have occurred before. -/
def scanOnce {α : Type} (name : String) (earlier : Option α) (value : Scanner α) :
    Scanner (Option α) := do
  if earlier.isSome then throw (.misfit (.duplicateField name))
  expectChar ':'
  return some (← value)

/-- The member of a layer object after its key. -/
def scanLayerMember (fields : PartialLayer) (key : String) : Scanner PartialLayer := do
  match key with
  | "name" => return { fields with name := ← scanOnce key fields.name text }
  | "schema" => return { fields with schema := ← scanOnce key fields.schema text }
  | "srid" => return { fields with srid := ← scanOnce key fields.srid int32 }
  | "unit" => return { fields with unit := ← scanOnce key fields.unit scanUnit }
  | "geometry_columns" =>
    return { fields with
      geometryColumns := ← scanOnce key fields.geometryColumns scanColumns }
  | _ =>
    expectChar ':'
    skip
    return fields

/-- The next item of an array of fields, if the array goes on. -/
def scanItem? {α : Type} (isFirst : Bool) (item : Scanner α) : Scanner (Option α) := do
  if ← nextItem isFirst then return some (← item) else return none

/-- A required item of a layer array, after as many items as `position` says. -/
def scanRequired {α : Type} (position : Nat) (item : Scanner α) : Scanner α := do
  match ← scanItem? (position == 0) item with
  | some value => return value
  | none => throw (.misfit (.wrongLength position "struct Layer with 5 elements"))

/-- The fields of a layer array after its bracket. -/
def scanLayerItems : Scanner Layer := do
  let name ← scanRequired 0 text
  let schema ← scanItem? false text
  let srid ← scanRequired 2 int32
  let unit ← scanRequired 3 scanUnit
  let columns ← scanItem? false scanColumns
  return ⟨name, schema.getD Layer.standardSchema, srid, unit,
    columns.getD Layer.standardGeometryColumns⟩

/-- A record: an object, read by `object` up to its brace, or an array of its fields, read by
`fields` up to its bracket. -/
def scanRecord {α : Type} (expected : String) (object fields : Scanner α) : Scanner α := do
  match ← peek with
  | none => throw .truncated
  | some c =>
    if c = '\x7b' then
      advance
      let value ← object
      expectChar '\x7d'
      return value
    else if c = '[' then
      advance
      let value ← fields
      expectChar ']'
      return value
    else mismatch expected

def scanLayer : Scanner Layer :=
  let object : Scanner Layer := do
    let fields ← members keyText scanLayerMember (← bound) true .empty
    match fields.complete with
    | .ok layer => return layer
    | .error fault => throw fault
  scanRecord "struct Layer" object scanLayerItems

def scanLayers : Scanner (List Layer) :=
  array "a sequence" scanLayer

def scanMember (layers : Option (List Layer)) (key : String) :
    Scanner (Option (List Layer)) := do
  if key = "layers" then scanOnce key layers scanLayers
  else
    expectChar ':'
    skip
    return layers

def scan : Scanner Configuration :=
  let object : Scanner Configuration := do
    let layers ← members keyText scanMember (← bound) true none
    return ⟨layers.getD []⟩
  let fields : Scanner Configuration := do
    let layers ← scanItem? true scanLayers
    return ⟨layers.getD []⟩
  scanRecord "struct ServiceConfig" object fields

/-- A whole document that holds a configuration and nothing else. -/
def scanDocument : Scanner Configuration := do
  let configuration ← scan
  if (← peek).isSome then throw .malformed
  return configuration

def read (document : String) : Except Fault Configuration :=
  (scanDocument.run document.toList).map Prod.fst

def ofText (document : String) : Except ConfigurationError Configuration :=
  (read document).mapError (.invalid none)

/-- The configuration in a file, given the file's content if it can be read. -/
def ofFile (path : String) (content : Option String) : Except ConfigurationError Configuration :=
  match content with
  | none => .error (.unreadable path)
  | some document => (read document).mapError (.invalid (some path))

end Configuration

end SpatialFilter
