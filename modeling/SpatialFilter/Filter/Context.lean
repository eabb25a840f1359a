import SpatialFilter.Filter.Error
import SpatialFilter.Markup.Element

/-!
# What a compilation reads

The layers of the service, the reference that the request asked for, and two collaborators:
one resolves the properties of a layer to columns, the other translates geometry elements.
Compiling changes none of them.
-/

namespace SpatialFilter

open SpatialFilter.Markup

/-- Maps a property of a layer to an SQL expression. -/
abbrev ColumnMap := (layer property : String) → Outcome String

/-- Maps a geometry element to the text of a geometry, which is then quoted. -/
abbrev GeometryReader := (element : Element) → Outcome String

/-- What one request's compilations read. -/
structure Context where
  catalog : LayerCatalog
  columns : ColumnMap
  geometries : GeometryReader
  /-- The reference that the request asked for, if it asked for one. -/
  requested : Option SpatialReference
  requested_isSet : ∀ reference, requested = some reference → reference.isUnset = false

namespace Context

/-- A context in which the request asks for no reference. -/
def ofCatalog (catalog : LayerCatalog) (columns : ColumnMap)
    (geometries : GeometryReader) : Context :=
  ⟨catalog, columns, geometries, none, nofun⟩

/-- The context in which the request asks for a reference.  Asking for the unset one is the
same as asking for none. -/
def withRequested (context : Context) (reference : SpatialReference) : Context :=
  if h : reference.isUnset then { context with requested := none, requested_isSet := nofun }
  else
    { context with
      requested := some reference
      requested_isSet := by
        intro other same
        cases same
        simpa using h }

/-- The srid that literals are written in: the requested one, or else the layer's. -/
def literalSrid (context : Context) (layer : String) : Outcome Int32 :=
  match context.requested with
  | some reference => .ok reference.srid
  | none => context.catalog.srid layer

/-- The srid that a layer's columns have to be transformed to, if they are stored in
another. -/
def conversionSrid (context : Context) (layer : String) : Outcome (Option Int32) :=
  match context.requested with
  | none => .ok none
  | some reference => do
    let stored ← context.catalog.srid layer
    return if reference.srid = stored then none else some reference.srid

end Context

end SpatialFilter
