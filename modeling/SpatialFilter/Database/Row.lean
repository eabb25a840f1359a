import SpatialFilter.Number.Layout
import SpatialFilter.Number.Numeral
import SpatialFilter.Text.Blank

/-!
# Result rows

A database answers a query with rows of texts, where a cell may be NULL.  Reading a cell as
text, as a 32-bit integer or as a number can fail, and each failure says which column was at
fault.
-/

namespace SpatialFilter.Database

open SpatialFilter.Number

/-- What is wrong with the shape of a result. -/
inductive ShapeFault where
  | noColumn (index : Nat)
  | nullColumn (index : Nat)
  | notInteger (index : Nat) (text : String)
  | notNumber (index : Nat) (text : String)
  /-- A fault that was found elsewhere, in its own words. -/
  | reported (detail : String)
  deriving DecidableEq, Repr

def ShapeFault.message : ShapeFault → String
  | .noColumn index => s!"row has no column {index}"
  | .nullColumn index => s!"column {index} is NULL"
  | .notInteger index text => s!"column {index} is not an integer: `{text}`"
  | .notNumber index text => s!"column {index} is not a number: `{text}`"
  | .reported detail => detail

/-- Why a query or the rendering of one failed. -/
inductive QueryError where
  /-- The database refused or could not answer. -/
  | failed (reason : String)
  /-- The answer does not have the expected cells. -/
  | shape (fault : ShapeFault)
  /-- A number that SQL cannot express was to be written. -/
  | nonFinite (value : Binary64)
  deriving DecidableEq, Repr

def QueryError.message : QueryError → String
  | .failed reason => s!"query failed: {reason}"
  | .shape fault => "unexpected result shape: " ++ fault.message
  | .nonFinite value => "cannot render non-finite number " ++ value.text ++ " as SQL"

structure Row where
  /-- The texts of the cells; `none` is NULL. -/
  cells : List (Option String)
  deriving DecidableEq, Repr

namespace Row

/-- The cell is there and is NULL. -/
def isNull (row : Row) (index : Nat) : Bool :=
  row.cells[index]? == some none

/-- The text of a cell that may be NULL. -/
def optionalText (row : Row) (index : Nat) : Except QueryError (Option String) :=
  match row.cells[index]? with
  | some cell => .ok cell
  | none => .error (.shape (.noColumn index))

def text (row : Row) (index : Nat) : Except QueryError String := do
  match ← row.optionalText index with
  | some content => .ok content
  | none => .error (.shape (.nullColumn index))

/-- A cell read as a 32-bit integer, blanks around it aside. -/
def int (row : Row) (index : Nat) : Except QueryError Int32 := do
  let content ← row.text index
  match readInt32? (Text.trim content.toList) with
  | some value => .ok value
  | none => .error (.shape (.notInteger index content))

/-- A cell read as a number, blanks around it aside. -/
def number (row : Row) (index : Nat) : Except QueryError Binary64 := do
  let content ← row.text index
  match Binary64.read? (Text.trim content.toList) with
  | some value => .ok value
  | none => .error (.shape (.notNumber index content))

end Row

end SpatialFilter.Database
