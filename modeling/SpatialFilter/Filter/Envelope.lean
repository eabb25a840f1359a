import SpatialFilter.Filter.Coordinates
import SpatialFilter.Markup.Element

/-!
# Envelopes

An envelope is written as an `Envelope` element with two corner elements, or as a `Box`
element with either one element of coordinates or two `coord` elements.  The corners are kept
as written and not put in order.
-/

namespace SpatialFilter

open SpatialFilter.Number
open SpatialFilter.Markup

structure Envelope where
  lower : Corner
  upper : Corner
  deriving DecidableEq, Repr

def writesEnvelope (element : Element) : Bool :=
  element.name == "Box" || element.name == "Envelope"

namespace Envelope

/-- The first two child elements are positions. -/
def ofCorners (element : Element) : Except FilterError Envelope :=
  match element.elements with
  | lower :: upper :: _ => do
    return ⟨← readPosition lower.text.toList, ← readPosition upper.text.toList⟩
  | _ => .error (.structural .noCorners)

/-- A coordinate: the first child element of this name. -/
def axis (coord : Element) (name : String) : Except FilterError Binary64 :=
  match coord.elements.find? fun child => child.name == name with
  | some child => readNumber child.text.toList
  | none => .error (.structural (.noAxis name))

/-- A corner with an element for each coordinate. -/
def cornerOfCoord (coord : Element) : Except FilterError Corner := do
  return ⟨← axis coord "X", ← axis coord "Y"⟩

/-- The first two children named `coord` are corners. -/
def ofCoords (element : Element) : Except FilterError Envelope :=
  match element.elements.filter fun child => child.name == "coord" with
  | lower :: upper :: _ => do return ⟨← cornerOfCoord lower, ← cornerOfCoord upper⟩
  | _ => .error (.structural .noCoordPair)

/-- Two positions in one text.  Runs of blanks count as one space. -/
def ofCoordinates (text : List Char) : Except FilterError Envelope :=
  let collapsed := [' '].intercalate (Text.words text)
  match Text.pieces (fun c => c == ',') (normalizeCoordinates collapsed) with
  | lower :: upper :: _ => do return ⟨← readPosition lower, ← readPosition upper⟩
  | _ => .error (.structural (.notTwoCorners (String.ofList collapsed)))

/-- A box: its first child element tells how it is written. -/
def ofBox (element : Element) : Except FilterError Envelope :=
  match element.elements with
  | [] => .error (.structural .noCoordinates)
  | first :: _ =>
    if first.name = "coord" then ofCoords element else ofCoordinates first.text.toList

def ofElement (element : Element) : Except FilterError Envelope :=
  if element.name = "Envelope" then ofCorners element
  else if element.name = "Box" then ofBox element
  else .error (.structural (.notAnEnvelope element.name))

end Envelope

end SpatialFilter
