import SpatialFilter.Extent.Revision
import SpatialFilter.Reference.Lookup

/-!
# Making extents

The extent at hand is set from four numbers, from a text `xmin,ymin,xmax,ymax` or from a
geographic extent.  All checks of the coordinates come before the reference is looked up, and the
extent is replaced only when the lookup has succeeded.
-/

namespace SpatialFilter

open SpatialFilter.Number
open SpatialFilter.Database

/-- A geographic extent, whose corners may come in either order. -/
structure GeographicExtent where
  west : Binary64
  east : Binary64
  north : Binary64
  south : Binary64
  deriving DecidableEq, Repr

namespace Extent

/-- A coordinate that an extent may be given: finite and not extreme. -/
def isStorable (value : Binary64) : Bool :=
  value.isFinite && !isExtreme value

/-- Stores four storable coordinates, in whatever order, with a srid that resolves. -/
def store (xmin ymin xmax ymax : Binary64) (srid : Int32) : Revision ExtentError Unit :=
  if [xmin, ymin, xmax, ymax].all isStorable then do
    let reference ← Revision.ofLookup .reference (SpatialReference.resolveSrid srid)
    Revision.replace ⟨xmin, ymin, xmax, ymax, reference⟩
  else throw (.invalid xmin ymin xmax ymax)

/-- Stores coordinates that must be apart and in order on both axes. -/
def setCoordinates (xmin ymin xmax ymax : Binary64) (srid : Int32) : Revision ExtentError Unit :=
  if xmax.le xmin || ymax.le ymin then throw (.invalid xmin ymin xmax ymax)
  else store xmin ymin xmax ymax srid

/-- The numbers between the commas of a text, blanks around each aside. -/
def readCoordinates? (text : String) : Option (List Binary64) :=
  (Text.pieces (fun c => c == ',') text.toList).mapM fun piece =>
    Binary64.read? (Text.trim piece)

def setText (text : String) (srid : Int32) : Revision ExtentError Unit :=
  match readCoordinates? text with
  | some [xmin, ymin, xmax, ymax] => setCoordinates xmin ymin xmax ymax srid
  | _ => throw (.malformed text)

/-- Stores a geographic extent, with each axis put in order.  Zero width and height are kept: a
layer that holds a single point has them. -/
def setGeographic (geographic : GeographicExtent) : Revision ExtentError Unit :=
  store (geographic.west.smaller geographic.east) (geographic.north.smaller geographic.south)
    (geographic.west.larger geographic.east) (geographic.north.larger geographic.south)
    geographicSrid

end Extent

end SpatialFilter
