import SpatialFilter.Extent.Aggregate
import SpatialFilter.Extent.Construction
import SpatialFilter.Extent.Reprojection

/-!
# Runs of commands on an extent

A command works on the extent at hand.  Whether it succeeds or fails, the next command goes on
with the extent that it leaves.
-/

namespace SpatialFilter

open SpatialFilter.Number
open SpatialFilter.Database

namespace Extent

/-- A change of the extent at hand. -/
inductive Command where
  | set (xmin ymin xmax ymax : Binary64) (srid : Int32)
  | setText (text : String) (srid : Int32)
  | setGeographic (geographic : GeographicExtent)
  | aggregate (layers filters : List String)
  | reproject (target : Int32)
  | reset
  deriving DecidableEq, Repr

def Command.action (catalog : LayerCatalog) :
    Command → Revision (Interruption ExtentError) Unit
  | .set xmin ymin xmax ymax srid => (setCoordinates xmin ymin xmax ymax srid).adapt .failed
  | .setText text srid => (Extent.setText text srid).adapt .failed
  | .setGeographic geographic => (Extent.setGeographic geographic).adapt .failed
  | .aggregate layers filters => do
    Revision.replace (← Revision.ofLookup id (Extent.aggregate catalog layers filters))
  | .reproject target => (Extent.reproject target).adapt .failed
  | .reset => Revision.replace unbounded

/-- One command: the extent after it, and how it ended. -/
def step (catalog : LayerCatalog) (extent : Extent) (command : Command) :
    Inquiry (Extent × Except (Interruption ExtentError) Unit) := do
  let (outcome, next) ← (command.action catalog).run.run extent
  return (next, outcome)

def afterAll (catalog : LayerCatalog) : Extent → List Command → Inquiry Extent
  | extent, [] => pure extent
  | extent, command :: rest => do
    let (next, _) ← step catalog extent command
    afterAll catalog next rest

end Extent

end SpatialFilter
