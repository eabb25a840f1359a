import SpatialFilter.Database.Inquiry
import SpatialFilter.Extent.Basic

/-!
# Revisions of an extent

An operation on the extent at hand may read it, put queries to the database and put another
extent in its place.  Nothing undoes a replacement when the operation fails afterwards, so each
operation has to leave the replacement to its last step.
-/

namespace SpatialFilter

open SpatialFilter.Database

/-- An operation on the extent at hand. -/
abbrev Revision (ε : Type) := ExceptT ε (StateT Extent Inquiry)

namespace Revision

/-- A lookup, which leaves the extent at hand alone. -/
def ofLookup {δ ε α : Type} (wrap : δ → ε) (lookup : Lookup δ α) : Revision ε α :=
  ExceptT.mk (StateT.lift (lookup.adapt wrap).run)

/-- A result that is known without asking. -/
def ofExcept {δ ε α : Type} (wrap : δ → ε) (result : Except δ α) : Revision ε α :=
  ofLookup id (liftExcept wrap result)

def replace {ε : Type} (next : Extent) : Revision ε Unit :=
  set next

end Revision

end SpatialFilter
