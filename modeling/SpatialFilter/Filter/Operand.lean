import SpatialFilter.Filter.Envelope

/-!
# Operands

An operand of a spatial operator is the name of a property, an envelope, or any other element,
which is taken for a geometry.
-/

namespace SpatialFilter

open SpatialFilter.Markup

/-- An operand of a spatial operator. -/
inductive Operand where
  | property (name : String)
  | envelope (element : Element)
  | geometry (element : Element)
  deriving DecidableEq, Repr

def Operand.ofElement (element : Element) : Operand :=
  if element.name = "PropertyName" ∨ element.name = "ValueReference" then
    .property (String.ofList (Text.trim element.text.toList))
  else if writesEnvelope element then .envelope element
  else .geometry element

end SpatialFilter
