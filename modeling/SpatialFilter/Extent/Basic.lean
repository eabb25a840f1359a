import SpatialFilter.Reference.Basic
import SpatialFilter.Sql.Literal

/-!
# Extents

An extent is an axis-aligned box with its spatial reference.  A fresh one is unbounded: it
carries the extreme finite numbers, which no stored extent may have, and the unset reference.
-/

namespace SpatialFilter

open SpatialFilter.Number
open SpatialFilter.Database

/-- An axis-aligned box with its spatial reference. -/
structure Extent where
  xmin : Binary64
  ymin : Binary64
  xmax : Binary64
  ymax : Binary64
  reference : SpatialReference
  deriving DecidableEq, Repr

/-- Why an operation on an extent failed. -/
inductive ExtentError where
  | invalid (xmin ymin xmax ymax : Binary64)
  | malformed (text : String)
  | unreferenced (extent : String)
  | reference (error : ReferenceError)
  | engine (error : QueryError)
  deriving DecidableEq, Repr

def coordinatesText (xmin ymin xmax ymax : Binary64) : String :=
  "[" ++ xmin.text ++ "," ++ ymin.text ++ "," ++ xmax.text ++ "," ++ ymax.text ++ "]"

def ExtentError.message : ExtentError → String
  | .invalid xmin ymin xmax ymax => "invalid extent " ++ coordinatesText xmin ymin xmax ymax
  | .malformed text => s!"expected `xmin,ymin,xmax,ymax`, got `{text}`"
  | .unreferenced extent =>
    s!"cannot reproject {extent}: both boxes need a spatial reference"
  | .reference error => error.message
  | .engine error => error.message

/-- One of the two finite numbers of largest magnitude. -/
def isExtreme (value : Binary64) : Bool :=
  value == .extreme true || value == .extreme false

namespace Extent

def unbounded : Extent :=
  ⟨.extreme true, .extreme true, .extreme false, .extreme false, .unset⟩

def coordinates (extent : Extent) : List Binary64 :=
  [extent.xmin, extent.ymin, extent.xmax, extent.ymax]

/-- Some coordinate is an extreme number. -/
def isUnbounded (extent : Extent) : Bool :=
  extent.coordinates.any isExtreme

/-- Bounded, with corners in order and apart on both axes. -/
def isProper (extent : Extent) : Bool :=
  !extent.isUnbounded && extent.xmin.lt extent.xmax && extent.ymin.lt extent.ymax

def text (extent : Extent) : String :=
  if extent.isUnbounded then "[unbounded]"
  else coordinatesText extent.xmin extent.ymin extent.xmax extent.ymax

/-- The extent as a box literal that carries its srid. -/
def literal (extent : Extent) : Except QueryError String :=
  Sql.boxLiteral extent.xmin extent.ymin extent.xmax extent.ymax extent.reference.srid

end Extent

end SpatialFilter
