import SpatialFilter.Markup.Element

/-!
# Trees and their marks

A walk over a tree passes a start for every element, its children, and an end.  The marks of a list
of nodes end where the list does or where the element around it ends, so that the nodes can be told
from the marks in front of whatever follows (`marksOfAll_append_inj`).  Two trees with the same
marks are therefore the same tree (`Element.eq_of_marks`).
-/

namespace SpatialFilter.Markup

/-- Nodes are taken one by one, an element with its children. -/
theorem induction_on_nodes {motive : List Node → Prop} (nil : motive [])
    (text : ∀ content rest, motive rest → motive (.text content :: rest))
    (comment : ∀ content rest, motive rest → motive (.comment content :: rest))
    (element : ∀ name attributes children rest, motive children → motive rest →
      motive (.element name attributes children :: rest)) (nodes : List Node) : motive nodes :=
  match nodes with
  | [] => nil
  | .text content :: rest =>
    text content rest (induction_on_nodes nil text comment element rest)
  | .comment content :: rest =>
    comment content rest (induction_on_nodes nil text comment element rest)
  | .element name attributes children :: rest =>
    element name attributes children rest (induction_on_nodes nil text comment element children)
      (induction_on_nodes nil text comment element rest)

theorem marksOfAll_append (nodes more : List Node) :
    marksOfAll (nodes ++ more) = marksOfAll nodes ++ marksOfAll more := by
  induction nodes with
  | nil => rfl
  | cons node rest ih => rw [List.cons_append, marksOfAll, marksOfAll, ih, List.append_assoc]

theorem marksOfAll_element (name : String) (attributes : List (String × String))
    (children rest : List Node) (behind : List Mark) :
    marksOfAll (.element name attributes children :: rest) ++ behind =
      .opening name attributes ::
        (marksOfAll children ++ .closing :: (marksOfAll rest ++ behind)) := by
  simp [marksOfAll, Node.marks]

/-- No node begins here: there are no more marks, or the element around ends. -/
def EndsNodes (marks : List Mark) : Prop :=
  marks = [] ∨ ∃ behind, marks = .closing :: behind

theorem endsNodes_closing (behind : List Mark) : EndsNodes (.closing :: behind) :=
  Or.inr ⟨behind, rfl⟩

/-- The marks of a node begin with a mark that is no end. -/
theorem not_endsNodes_of_node (node : Node) (marks : List Mark) :
    ¬ EndsNodes (node.marks ++ marks) := by
  rintro (empty | ⟨behind, ends⟩)
  · cases node <;> simp [Node.marks] at empty
  · cases node <;> simp [Node.marks] at ends

theorem eq_nil_of_endsNodes {nodes : List Node} {behind : List Mark}
    (ends : EndsNodes (marksOfAll nodes ++ behind)) : nodes = [] := by
  cases nodes with
  | nil => rfl
  | cons node rest =>
    rw [marksOfAll, List.append_assoc] at ends
    exact absurd ends (not_endsNodes_of_node node _)

/-- Where one list of nodes begins with a node, another with the same marks does too. -/
theorem exists_cons_of_marks {node : Node} {rest others : List Node} {behind after : List Mark}
    (ends : EndsNodes after)
    (same : marksOfAll (node :: rest) ++ behind = marksOfAll others ++ after) :
    ∃ other more, others = other :: more := by
  cases others with
  | nil =>
    rw [marksOfAll, marksOfAll, List.nil_append, List.append_assoc] at same
    rw [← same] at ends
    exact absurd ends (not_endsNodes_of_node node _)
  | cons other more => exact ⟨other, more, rfl⟩

/-- Nodes are told from their marks in front of what follows. -/
theorem marksOfAll_append_inj {nodes others : List Node} {behind after : List Mark}
    (ends : EndsNodes behind) (after_ends : EndsNodes after)
    (same : marksOfAll nodes ++ behind = marksOfAll others ++ after) :
    nodes = others ∧ behind = after := by
  induction nodes using induction_on_nodes generalizing others behind after with
  | nil =>
    rw [marksOfAll, List.nil_append] at same
    have none : others = [] := eq_nil_of_endsNodes (same ▸ ends)
    subst none
    exact ⟨rfl, same⟩
  | text content rest ih =>
    obtain ⟨other, more, rfl⟩ := exists_cons_of_marks after_ends same
    cases other with
    | text content' =>
      simp only [marksOfAll, Node.marks, List.cons_append, List.nil_append, List.cons.injEq,
        Mark.text.injEq] at same
      obtain ⟨rfl, behind_eq⟩ := ih ends after_ends same.2
      exact ⟨by rw [same.1], behind_eq⟩
    | element | comment => simp [marksOfAll, Node.marks] at same
  | comment content rest ih =>
    obtain ⟨other, more, rfl⟩ := exists_cons_of_marks after_ends same
    cases other with
    | comment content' =>
      simp only [marksOfAll, Node.marks, List.cons_append, List.nil_append, List.cons.injEq,
        Mark.comment.injEq] at same
      obtain ⟨rfl, behind_eq⟩ := ih ends after_ends same.2
      exact ⟨by rw [same.1], behind_eq⟩
    | element | text => simp [marksOfAll, Node.marks] at same
  | element name attributes children rest children_ih ih =>
    obtain ⟨other, more, rfl⟩ := exists_cons_of_marks after_ends same
    cases other with
    | element name' attributes' children' =>
      rw [marksOfAll_element, marksOfAll_element, List.cons.injEq, Mark.opening.injEq] at same
      obtain ⟨⟨rfl, rfl⟩, inside⟩ := same
      -- The children end at the end mark, and what is behind it is left for the rest.
      obtain ⟨rfl, closed⟩ :=
        children_ih (endsNodes_closing _) (endsNodes_closing _) inside
      obtain ⟨rfl, behind_eq⟩ := ih ends after_ends (List.tail_eq_of_cons_eq closed)
      exact ⟨rfl, behind_eq⟩
    | text | comment => simp [marksOfAll, Node.marks] at same

/-- Trees with the same marks are the same. -/
theorem Element.eq_of_marks {element other : Element} (same : element.marks = other.marks) :
    element = other := by
  have alone : ∀ element : Element, element.marks = marksOfAll [element.toNode] ++ [] := by
    intro element
    simp [marksOfAll, Element.marks]
  rw [alone, alone] at same
  obtain ⟨nodes_eq, -⟩ := marksOfAll_append_inj (Or.inl rfl) (Or.inl rfl) same
  have node_eq : element.toNode = other.toNode := by simpa using nodes_eq
  cases element
  cases other
  simpa [Element.toNode] using node_eq

end SpatialFilter.Markup
