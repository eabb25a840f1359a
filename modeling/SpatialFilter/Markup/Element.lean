/-!
# Element trees

An element has a name, attributes and children, which are elements, texts and comments in
document order.  Its view is the list of marks that a walk over the tree in document order
passes, and two trees are equal exactly when their marks are.
-/

namespace SpatialFilter.Markup

/-- A child of an element. -/
inductive Node where
  | element (name : String) (attributes : List (String × String)) (children : List Node)
  | text (content : String)
  | comment (content : String)
  deriving Repr

structure Element where
  name : String
  attributes : List (String × String)
  children : List Node
  deriving Repr

/-- What a walk over a tree passes. -/
inductive Mark where
  | opening (name : String) (attributes : List (String × String))
  | closing
  | text (content : String)
  | comment (content : String)
  deriving DecidableEq, Repr

mutual

def Node.marks : Node → List Mark
  | .element name attributes children =>
    .opening name attributes :: marksOfAll children ++ [.closing]
  | .text content => [.text content]
  | .comment content => [.comment content]

def marksOfAll : List Node → List Mark
  | [] => []
  | node :: rest => node.marks ++ marksOfAll rest

end

mutual

/-- Equality of nodes is decided child by child. -/
def Node.decideEq : (a b : Node) → Decidable (a = b)
  | .element name attributes children, .element name' attributes' children' =>
    match decEq name name', decEq attributes attributes', decideEqAll children children' with
    | isTrue h, isTrue h', isTrue h'' => isTrue (by rw [h, h', h''])
    | isFalse h, _, _ => isFalse (by intro e; cases e; exact h rfl)
    | _, isFalse h, _ => isFalse (by intro e; cases e; exact h rfl)
    | _, _, isFalse h => isFalse (by intro e; cases e; exact h rfl)
  | .text content, .text content' =>
    if h : content = content' then isTrue (by rw [h])
    else isFalse (by intro e; cases e; exact h rfl)
  | .comment content, .comment content' =>
    if h : content = content' then isTrue (by rw [h])
    else isFalse (by intro e; cases e; exact h rfl)
  | .element .., .text _ => isFalse nofun
  | .element .., .comment _ => isFalse nofun
  | .text _, .element .. => isFalse nofun
  | .text _, .comment _ => isFalse nofun
  | .comment _, .element .. => isFalse nofun
  | .comment _, .text _ => isFalse nofun

def decideEqAll : (a b : List Node) → Decidable (a = b)
  | [], [] => isTrue rfl
  | [], _ :: _ => isFalse nofun
  | _ :: _, [] => isFalse nofun
  | a :: as, b :: bs =>
    match Node.decideEq a b, decideEqAll as bs with
    | isTrue h, isTrue h' => isTrue (by rw [h, h'])
    | isFalse h, _ => isFalse (by intro e; cases e; exact h rfl)
    | _, isFalse h => isFalse (by intro e; cases e; exact h rfl)

end

instance : DecidableEq Node := Node.decideEq

deriving instance DecidableEq for Element

namespace Element

def toNode (element : Element) : Node :=
  .element element.name element.attributes element.children

def marks (element : Element) : List Mark :=
  element.toNode.marks

def attribute? (element : Element) (key : String) : Option String :=
  (element.attributes.find? fun (name, _) => name == key).map Prod.snd

/-- The children that are elements, in order. -/
def elements (element : Element) : List Element :=
  element.children.filterMap fun
    | .element name attributes children => some ⟨name, attributes, children⟩
    | _ => none

/-- The children that are texts, joined. -/
def text (element : Element) : String :=
  String.join (element.children.filterMap fun
    | .text content => some content
    | _ => none)

/-- The element with one more child at the end. -/
def append (element : Element) (child : Node) : Element :=
  { element with children := element.children ++ [child] }

end Element

end SpatialFilter.Markup
