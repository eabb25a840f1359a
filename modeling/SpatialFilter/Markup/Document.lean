import SpatialFilter.Markup.Element
import SpatialFilter.Markup.Event

/-!
# Documents

A document has exactly one root element.  Its tree is built from the events in order, with
the elements that are open kept innermost first, and the first fault in document order is the
one that is reported.  Texts, comments and the rest outside the root leave no trace.
-/

namespace SpatialFilter.Markup

/-- A tree that is being built. -/
structure Growth where
  /-- The elements that are open, innermost first, with the children they have so far. -/
  opened : List Element
  /-- The root element, once it is complete. -/
  root : Option Element
  deriving DecidableEq, Repr

def Tag.element (tag : Tag) : Except Fault Element := do
  let attributes ← tag.attributes
  return ⟨String.ofList (localName tag.name), attributes, []⟩

namespace Growth

def start : Growth :=
  ⟨[], none⟩

/-- Adds a complete element to the innermost open one, or makes it the root. -/
def place (growth : Growth) (element : Element) : Except Fault Growth :=
  match growth.opened with
  | inner :: outer => .ok { growth with opened := inner.append element.toNode :: outer }
  | [] =>
    match growth.root with
    | some _ => .error .secondRoot
    | none => .ok { growth with root := some element }

/-- Adds a text or a comment to the innermost open element, if there is one. -/
def add (growth : Growth) (child : Except Fault Node) : Except Fault Growth :=
  match growth.opened with
  | inner :: outer => do return { growth with opened := inner.append (← child) :: outer }
  | [] => .ok growth

def step (growth : Growth) : Event → Except Fault Growth
  | .opening tag => do
    let element ← tag.element
    return { growth with opened := element :: growth.opened }
  | .empty tag => do
    let element ← tag.element
    growth.place element
  | .closing _ =>
    match growth.opened with
    | [] => .error .unbalancedEnd
    | element :: outer => { growth with opened := outer }.place element
  | .text written =>
    growth.add ((unescape written).map fun content => .text (String.ofList content))
  | .cdata content => growth.add (.ok (.text (String.ofList content)))
  | .comment content => growth.add (.ok (.comment (String.ofList content)))
  | .ignored => .ok growth

def steps (growth : Growth) : List Event → Except Fault Growth
  | [] => .ok growth
  | event :: rest => do
    let next ← growth.step event
    next.steps rest

/-- The root element, if the tree is complete. -/
def tree (growth : Growth) : Except Fault Element :=
  match growth.opened with
  | inner :: _ => .error (.unclosed inner.name)
  | [] =>
    match growth.root with
    | some root => .ok root
    | none => .error .noRoot

end Growth

def Reading.root (reading : Reading) : Except Fault Element := do
  let growth ← Growth.start.steps reading.events
  match reading.fault with
  | some fault => .error fault
  | none => growth.tree

def Element.parse (document : String) : Except Fault Element :=
  (readEvents document).root

end SpatialFilter.Markup
