import SpatialFilter.Number.Layout
import SpatialFilter.Text.Quoted

/-!
# Faults of JSON documents

A document can end too early, break the grammar, or be well formed as far as it was read and
hold something else than what was expected there.
-/

namespace SpatialFilter.Json

open SpatialFilter.Number

/-- What stands at a place of a document. -/
inductive Found where
  | null
  | boolean (value : Bool)
  | integer (value : Int)
  | real (value : Binary64)
  | text (content : String)
  | sequence
  | map
  deriving DecidableEq, Repr

/-- Numbers in messages keep a point, and turn to an exponent when they are very large or
very small. -/
def realLayout : Layout :=
  ⟨.even, some (-5, 16), ".0"⟩

/-- How a message names what was found. -/
def Found.describe : Found → String
  | .null => "null"
  | .boolean true => "boolean `true`"
  | .boolean false => "boolean `false`"
  | .integer value => "integer `" ++ integerText value ++ "`"
  | .real value => "floating point `" ++ value.render realLayout ++ "`"
  | .text content => "string " ++ Text.quoted content
  | .sequence => "sequence"
  | .map => "map"

/-- A value that does not fit its place. -/
inductive Misfit where
  | wrongType (found : Found) (expected : String)
  | outOfRange (value : Int) (expected : String)
  | missingField (name : String)
  | duplicateField (name : String)
  | unknownVariant (name : String) (expected : String)
  | wrongLength (length : Nat) (expected : String)
  deriving DecidableEq, Repr

def Misfit.message : Misfit → String
  | .wrongType found expected =>
    "invalid type: " ++ found.describe ++ ", expected " ++ expected
  | .outOfRange value expected =>
    "invalid value: " ++ (Found.integer value).describe ++ ", expected " ++ expected
  | .missingField name => s!"missing field `{name}`"
  | .duplicateField name => s!"duplicate field `{name}`"
  | .unknownVariant name expected => s!"unknown variant `{name}`, expected {expected}"
  | .wrongLength length expected => s!"invalid length {length}, expected {expected}"

/-- Why a document could not be read. -/
inductive Fault where
  /-- The document ends where more had to come. -/
  | truncated
  /-- The document breaks the grammar. -/
  | malformed
  /-- The document holds something else than expected. -/
  | misfit (misfit : Misfit)
  deriving DecidableEq, Repr

end SpatialFilter.Json
