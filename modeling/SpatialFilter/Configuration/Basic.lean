import SpatialFilter.Json.Fault
import SpatialFilter.Layer.Catalog

/-!
# Service configurations

A configuration lists the layers of a service.  It is written as a JSON document, from which
the schema and the geometry columns of a layer and the list of layers itself may be left out.
-/

namespace SpatialFilter

/-- What a service is told about its data. -/
structure Configuration where
  layers : List Layer
  deriving DecidableEq, Repr

/-- Why a configuration could not be had. -/
inductive ConfigurationError where
  /-- The file cannot be read. -/
  | unreadable (path : String)
  /-- The document, from a file or not, is no configuration. -/
  | invalid (path? : Option String) (fault : Json.Fault)
  deriving DecidableEq, Repr

/-- The text of a configuration error, which names the file if there is one. -/
def ConfigurationError.message : ConfigurationError → String
  | .unreadable path => s!"failed to read {path}"
  | .invalid (some path) _ => s!"while loading {path}"
  | .invalid none _ => "invalid service configuration"

def Configuration.catalog (configuration : Configuration) : Except CatalogError LayerCatalog :=
  LayerCatalog.ofList configuration.layers

end SpatialFilter
