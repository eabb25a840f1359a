import SpatialFilter.Layer.Basic

/-!
# Layer catalogs

The layers that a service exposes.  In a catalog every layer has a name and a geometry column
and no name occurs twice; a list of layers that breaks one of these rules is refused with its
first fault.
-/

namespace SpatialFilter

/-- Why a list of layers is no catalog. -/
inductive CatalogError where
  | unnamed (position : Nat)
  | noGeometryColumn (layer : String)
  | declaredTwice (layer : String)
  deriving DecidableEq, Repr

def CatalogError.message : CatalogError → String
  | .unnamed position => s!"layer #{position} has an empty name"
  | .noGeometryColumn layer => s!"layer `{layer}` declares no geometry column"
  | .declaredTwice layer => s!"layer `{layer}` is declared twice"

/-- The first fault in a list of layers that follow `earlier` ones.  For one layer, a missing
name is reported before missing columns, and these before a repeated name. -/
def Layer.firstFault? (earlier : List Layer) : List Layer → Option CatalogError
  | [] => none
  | layer :: rest =>
    if layer.name = "" then some (.unnamed earlier.length)
    else if layer.geometryColumns = [] then some (.noGeometryColumn layer.name)
    else if earlier.any fun other => other.name == layer.name then
      some (.declaredTwice layer.name)
    else firstFault? (earlier ++ [layer]) rest

/-- The layers of a service. -/
structure LayerCatalog where
  layers : List Layer
  faultless : Layer.firstFault? [] layers = none

/-- Why an operation on a layer ends early: it fails, or its caller named a layer that the
service does not have.  The latter is no failure of a request and is never recorded as one. -/
inductive Interruption (ε : Type) where
  | failed (error : ε)
  | unconfigured (layer : String)
  deriving DecidableEq, Repr

def unconfiguredMessage (layer : String) : String :=
  s!"layer `{layer}` is not configured"

namespace LayerCatalog

/-- The catalog of a list of layers, or the first fault in it. -/
def ofList (layers : List Layer) : Except CatalogError LayerCatalog :=
  match h : Layer.firstFault? [] layers with
  | none => .ok ⟨layers, h⟩
  | some fault => .error fault

/-- The layer of exactly this name. -/
def get? (catalog : LayerCatalog) (name : String) : Option Layer :=
  catalog.layers.find? fun layer => layer.name == name

/-- The layer of a name that should be configured. -/
def require {ε : Type} (catalog : LayerCatalog) (name : String) :
    Except (Interruption ε) Layer :=
  match catalog.get? name with
  | some layer => .ok layer
  | none => .error (.unconfigured name)

def srid {ε : Type} (catalog : LayerCatalog) (name : String) : Except (Interruption ε) Int32 :=
  (catalog.require name).map Layer.srid

def isMetric {ε : Type} (catalog : LayerCatalog) (name : String) :
    Except (Interruption ε) Bool :=
  (catalog.require name).map fun layer => !layer.isAngular

end LayerCatalog

end SpatialFilter
