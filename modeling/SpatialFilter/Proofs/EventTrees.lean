import Mathlib.Data.List.Forall2
import SpatialFilter.Proofs.ElementMarks
import SpatialFilter.Proofs.Results
import SpatialFilter.Proofs.WrittenDocuments

/-!
# The events of a tree

A document has a root when its events are one complete element between events that are no tags
(`HasRoot`), every attribute of its tags can be taken and every text in the element can be
unescaped.  Nothing else can stop the tree, and the tree is the one whose walk passes the marks of
these events in order (`tree_is_faithful_to_events`).

The builder keeps the elements that are open.  Events whose tags nest (`Nested`) leave those as they
are and add their nodes to the innermost one (`steps_of_nested`).  In the other direction the events
that are left close just the elements that are open (`Closes`), since a second element could not be
placed behind the root.
-/

namespace SpatialFilter.Markup

open SpatialFilter.Text

/-! ## Attributes -/

/-- The text holds these attributes, one after the other up to its end, behind those that were seen.
`total` is the length of the tag. -/
inductive HoldsAttributes (total : Nat) :
    (seen : List WrittenAttribute) → (text : List Char) → List WrittenAttribute → Prop
  | none {seen : List WrittenAttribute} {text : List Char}
      (ends : nextAttribute total seen text = .ok none) : HoldsAttributes total seen text []
  | next {seen others : List WrittenAttribute} {text after : List Char} {written : WrittenAttribute}
      (first : nextAttribute total seen text = .ok (some (written, after)))
      (behind : HoldsAttributes total (written :: seen) after others) :
    HoldsAttributes total seen text (written :: others)

/-- The attribute is taken by the local part of its key, with its value unescaped. -/
structure WrittenAttribute.IsTakenAs (written : WrittenAttribute) (pair : String × String) :
    Prop where
  key : pair.1 = String.ofList (localName written.key)
  value : ∃ value, unescape written.value = .ok value ∧ pair.2 = String.ofList value

/-- The attributes of the tag can be taken: these, without the declarations of namespaces, which are
not even unescaped. -/
def Tag.Converts (tag : Tag) (attributes : List (String × String)) : Prop :=
  ∃ written, HoldsAttributes (byteLength tag.name + byteLength tag.rest) [] tag.rest written ∧
    List.Forall₂ WrittenAttribute.IsTakenAs
      (written.filter fun entry => !isNamespaceKey entry.key) attributes

/-- The attributes that a text holds are read off it, without the declarations of namespaces. -/
theorem readAttributes_of_holds {total : Nat} {seen written : List WrittenAttribute}
    {text : List Char} {attributes : List (String × String)}
    (holds : HoldsAttributes total seen text written)
    (taken : List.Forall₂ WrittenAttribute.IsTakenAs
      (written.filter fun entry => !isNamespaceKey entry.key) attributes) :
    readAttributes total seen text = .ok attributes := by
  induction holds generalizing attributes with
  | none ends =>
    cases taken
    rw [readAttributes_eq_match, ends]
  | @next seen others text after written first behind ih =>
    rw [readAttributes_next first]
    cases declares : isNamespaceKey written.key with
    | true =>
      rw [List.filter_cons_of_neg (by simp [declares])] at taken
      simp only [if_true]
      exact ih taken
    | false =>
      rw [List.filter_cons_of_pos (by simp [declares])] at taken
      cases taken with
      | @cons _ pair _ pairs head tail =>
        obtain ⟨key, value⟩ := pair
        obtain ⟨rfl, value', unescaped, rfl⟩ := head
        simp [unescaped, ih tail, bind, Except.bind, pure, Except.pure]

/-- Whatever is read off a text is held by it. -/
theorem holds_of_readAttributes {total : Nat} {seen : List WrittenAttribute} {text : List Char}
    {attributes : List (String × String)} (read : readAttributes total seen text = .ok attributes) :
    ∃ written, HoldsAttributes total seen text written ∧
      List.Forall₂ WrittenAttribute.IsTakenAs
        (written.filter fun entry => !isNamespaceKey entry.key) attributes := by
  induction seen, text using readAttributes.induct total generalizing attributes with
  | case1 seen text fault failed =>
    rw [readAttributes_eq_match, failed] at read
    cases read
  | case2 seen text ends =>
    rw [readAttributes_eq_match, ends] at read
    cases read
    exact ⟨[], .none ends, .nil⟩
  | case3 seen text written after first shorter declares ih =>
    rw [readAttributes_next first] at read
    simp only [declares, if_true] at read
    obtain ⟨others, holds, taken⟩ := ih read
    refine ⟨written :: others, .next first holds, ?_⟩
    rwa [List.filter_cons_of_neg (by simp [declares])]
  | case4 seen text written after first shorter keeps ih =>
    rw [readAttributes_next first] at read
    simp only [keeps] at read
    obtain ⟨value, unescaped, read⟩ := bind_eq_ok.mp read
    obtain ⟨rest, others_read, read⟩ := bind_eq_ok.mp read
    cases read
    obtain ⟨others, holds, taken⟩ := ih others_read
    refine ⟨written :: others, .next first holds, ?_⟩
    rw [List.filter_cons_of_pos (by simp [keeps])]
    exact .cons ⟨rfl, value, unescaped, rfl⟩ taken

theorem Tag.attributes_eq_ok_iff {tag : Tag} {attributes : List (String × String)} :
    tag.attributes = .ok attributes ↔ tag.Converts attributes := by
  constructor
  · exact holds_of_readAttributes
  · rintro ⟨written, holds, taken⟩
    exact readAttributes_of_holds holds taken

theorem Tag.element_eq_ok_iff {tag : Tag} {element : Element} :
    tag.element = .ok element ↔
      ∃ attributes, tag.Converts attributes ∧
        element = ⟨String.ofList (localName tag.name), attributes, []⟩ := by
  unfold Tag.element
  rw [bind_eq_ok]
  simp only [Tag.attributes_eq_ok_iff]
  constructor
  · rintro ⟨attributes, converts, ⟨⟩⟩
    exact ⟨attributes, converts, rfl⟩
  · rintro ⟨attributes, converts, rfl⟩
    exact ⟨attributes, converts, rfl⟩

theorem Tag.Converts.unique {tag : Tag} {attributes others : List (String × String)}
    (converts : tag.Converts attributes) (other : tag.Converts others) : attributes = others := by
  rw [← Tag.attributes_eq_ok_iff] at converts other
  rw [converts] at other
  exact Except.ok.inj other

/-! ## Marks of events -/

/-- What a walk over the tree passes where this event was.  A tag that opens and closes an element
counts as its start and its end. -/
inductive Event.Shows : Event → List Mark → Prop
  | opening {tag : Tag} {attributes : List (String × String)} (converts : tag.Converts attributes) :
    Shows (.opening tag) [.opening (String.ofList (localName tag.name)) attributes]
  | empty {tag : Tag} {attributes : List (String × String)} (converts : tag.Converts attributes) :
    Shows (.empty tag) [.opening (String.ofList (localName tag.name)) attributes, .closing]
  | closing (content : List Char) : Shows (.closing content) [.closing]
  | text {written content : List Char} (unescaped : unescape written = .ok content) :
    Shows (.text written) [.text (String.ofList content)]
  | cdata (content : List Char) : Shows (.cdata content) [.text (String.ofList content)]
  | comment (content : List Char) : Shows (.comment content) [.comment (String.ofList content)]
  | ignored : Shows .ignored []

/-- The marks of events in order. -/
inductive ShowAll : List Event → List Mark → Prop
  | nil : ShowAll [] []
  | cons {event : Event} {rest : List Event} {marks more : List Mark} (first : event.Shows marks)
      (others : ShowAll rest more) : ShowAll (event :: rest) (marks ++ more)

/-- An event shows its marks in one way only. -/
theorem Event.Shows.unique {event : Event} {marks others : List Mark} (shows : event.Shows marks)
    (other : event.Shows others) : marks = others := by
  cases shows with
  | opening converts =>
    cases other with
    | opening converts' => rw [converts.unique converts']
  | empty converts =>
    cases other with
    | empty converts' => rw [converts.unique converts']
  | text unescaped =>
    cases other with
    | text unescaped' =>
      rw [unescaped] at unescaped'
      rw [Except.ok.inj unescaped']
  | closing | cdata | comment | ignored =>
    cases other
    rfl

theorem ShowAll.unique {events : List Event} {marks others : List Mark}
    (shows : ShowAll events marks) (other : ShowAll events others) : marks = others := by
  induction shows generalizing others with
  | nil =>
    cases other
    rfl
  | cons first _ ih =>
    cases other with
    | cons first' others' => rw [first.unique first', ih others']

theorem showAll_append_iff {events later : List Event} {marks : List Mark} :
    ShowAll (events ++ later) marks ↔
      ∃ front back, ShowAll events front ∧ ShowAll later back ∧ marks = front ++ back := by
  induction events generalizing marks with
  | nil =>
    constructor
    · intro shows
      exact ⟨[], marks, .nil, shows, rfl⟩
    · rintro ⟨front, back, ⟨⟩, shows, rfl⟩
      exact shows
  | cons event rest ih =>
    constructor
    · rintro (_ | ⟨first, others⟩)
      obtain ⟨front, back, rest_shows, later_shows, rfl⟩ := ih.mp others
      exact ⟨_, back, .cons first rest_shows, later_shows, (List.append_assoc ..).symm⟩
    · rintro ⟨front, back, _ | ⟨first, others⟩, later_shows, rfl⟩
      rw [List.append_assoc]
      exact .cons first (ih.mpr ⟨_, back, others, later_shows, rfl⟩)

/-- Only attributes and texts can fail to show. -/
theorem exists_shows_iff (event : Event) :
    (∃ marks, event.Shows marks) ↔
      (∀ tag, event = .opening tag ∨ event = .empty tag → ∃ attributes, tag.Converts attributes) ∧
        ∀ written, event = .text written → ∃ content, unescape written = .ok content := by
  constructor
  · rintro ⟨marks, shows⟩
    cases shows with
    | opening converts | empty converts => simpa using ⟨_, converts⟩
    | text unescaped => simpa using ⟨_, unescaped⟩
    | closing | cdata | comment | ignored => simp
  · rintro ⟨tags, texts⟩
    cases event with
    | opening tag =>
      obtain ⟨attributes, converts⟩ := tags tag (Or.inl rfl)
      exact ⟨_, .opening converts⟩
    | empty tag =>
      obtain ⟨attributes, converts⟩ := tags tag (Or.inr rfl)
      exact ⟨_, .empty converts⟩
    | text written =>
      obtain ⟨content, unescaped⟩ := texts written rfl
      exact ⟨_, .text unescaped⟩
    | closing content => exact ⟨_, .closing content⟩
    | cdata content => exact ⟨_, .cdata content⟩
    | comment content => exact ⟨_, .comment content⟩
    | ignored => exact ⟨_, .ignored⟩

/-- Events have marks exactly when each of them has. -/
theorem exists_showAll_iff_each (events : List Event) :
    (∃ marks, ShowAll events marks) ↔ ∀ event ∈ events, ∃ marks, event.Shows marks := by
  induction events with
  | nil => simpa using ⟨[], .nil⟩
  | cons event rest ih =>
    rw [List.forall_mem_cons, ← ih]
    constructor
    · rintro ⟨_, _ | ⟨first, others⟩⟩
      exact ⟨⟨_, first⟩, _, others⟩
    · rintro ⟨⟨_, first⟩, _, others⟩
      exact ⟨_, .cons first others⟩

/-- Events show when the attributes of their tags can be taken and their texts unescaped. -/
theorem exists_showAll_iff (events : List Event) :
    (∃ marks, ShowAll events marks) ↔
      (∀ tag, .opening tag ∈ events ∨ .empty tag ∈ events →
          ∃ attributes, tag.Converts attributes) ∧
        ∀ written, .text written ∈ events → ∃ content, unescape written = .ok content := by
  rw [exists_showAll_iff_each]
  constructor
  · intro each
    constructor
    · rintro tag (opening | empty)
      · exact ((exists_shows_iff _).mp (each _ opening)).1 tag (Or.inl rfl)
      · exact ((exists_shows_iff _).mp (each _ empty)).1 tag (Or.inr rfl)
    · intro written member
      exact ((exists_shows_iff _).mp (each _ member)).2 written rfl
  · rintro ⟨tags, texts⟩ event member
    refine (exists_shows_iff event).mpr ⟨?_, ?_⟩
    · rintro tag (rfl | rfl)
      · exact tags tag (Or.inl member)
      · exact tags tag (Or.inr member)
    · rintro written rfl
      exact texts written member

/-! ## Nested tags -/

def Event.IsTag : Event → Prop
  | .opening _ => True
  | .empty _ => True
  | .closing _ => True
  | _ => False

/-- None of the events is a tag. -/
def Tagless (events : List Event) : Prop :=
  ∀ event ∈ events, ¬ event.IsTag

/-- Each start tag among the events has its end tag, and the elements between nest. -/
inductive Nested : List Event → Prop
  | nil : Nested []
  | content {event : Event} {rest : List Event} (tagless : ¬ event.IsTag) (others : Nested rest) :
    Nested (event :: rest)
  | empty (tag : Tag) {rest : List Event} (others : Nested rest) : Nested (.empty tag :: rest)
  | element (tag : Tag) (content : List Char) {inside rest : List Event} (inner : Nested inside)
      (others : Nested rest) : Nested (.opening tag :: (inside ++ .closing content :: rest))

/-- The events are one complete element. -/
inductive OneElement : List Event → Prop
  | empty (tag : Tag) : OneElement [.empty tag]
  | element (tag : Tag) (content : List Char) {inside : List Event} (inner : Nested inside) :
    OneElement (.opening tag :: (inside ++ [.closing content]))

/-- The events have one complete element, and there is no other tag before or behind it. -/
structure HasRoot (events before element after : List Event) : Prop where
  parts : events = before ++ (element ++ after)
  before_tagless : Tagless before
  one : OneElement element
  after_tagless : Tagless after

/-! ## Steps of the builder -/

/-- Where a complete element goes: into the innermost open element, or to the place of the root. -/
inductive Placed (element : Element) : Growth → Growth → Prop
  | inside {inner : Element} {outer : List Element} {root : Option Element} :
    Placed element ⟨inner :: outer, root⟩ ⟨inner.append element.toNode :: outer, root⟩
  | root : Placed element ⟨[], none⟩ ⟨[], some element⟩

theorem place_eq_ok_iff {growth next : Growth} {element : Element} :
    growth.place element = .ok next ↔ Placed element growth next := by
  obtain ⟨opened, root⟩ := growth
  constructor
  · intro placed
    cases opened with
    | cons inner outer =>
      cases placed
      exact .inside
    | nil =>
      cases root with
      | some root => cases placed
      | none =>
        cases placed
        exact .root
  · rintro (_ | _) <;> rfl

/-- The element with more children at the end. -/
def Element.adding (element : Element) (nodes : List Node) : Element :=
  { element with children := element.children ++ nodes }

theorem adding_nil (element : Element) : element.adding [] = element := by
  rw [Element.adding, List.append_nil]

theorem adding_adding (element : Element) (nodes more : List Node) :
    (element.adding nodes).adding more = element.adding (nodes ++ more) := by
  simp [Element.adding]

theorem append_adding (element : Element) (node : Node) (more : List Node) :
    (element.append node).adding more = element.adding (node :: more) := by
  simp [Element.adding, Element.append]

/-- All that one event can do to a tree. -/
inductive Stepped : Growth → Event → Growth → Prop
  | opening {tag : Tag} {element : Element} {opened : List Element} {root : Option Element}
      (taken : tag.element = .ok element) :
    Stepped ⟨opened, root⟩ (.opening tag) ⟨element :: opened, root⟩
  | empty {tag : Tag} {element : Element} {growth next : Growth}
      (taken : tag.element = .ok element) (placed : Placed element growth next) :
    Stepped growth (.empty tag) next
  | closing {content : List Char} {element : Element} {outer : List Element}
      {root : Option Element} {next : Growth} (placed : Placed element ⟨outer, root⟩ next) :
    Stepped ⟨element :: outer, root⟩ (.closing content) next
  | inside {event : Event} {inner : Element} {outer : List Element} {root : Option Element}
      {nodes : List Node} (tagless : ¬ event.IsTag) (shows : event.Shows (marksOfAll nodes)) :
    Stepped ⟨inner :: outer, root⟩ event ⟨inner.adding nodes :: outer, root⟩
  | outside {event : Event} {root : Option Element} (tagless : ¬ event.IsTag) :
    Stepped ⟨[], root⟩ event ⟨[], root⟩

/-- What is no tag adds its nodes to the innermost open element. -/
theorem stepped_of_content {inner : Element} {outer : List Element} {root : Option Element}
    {next : Growth} {event : Event} (tagless : ¬ event.IsTag)
    (stepped : (⟨inner :: outer, root⟩ : Growth).step event = .ok next) :
    Stepped ⟨inner :: outer, root⟩ event next := by
  cases event with
  | opening | empty | closing => exact absurd trivial tagless
  | text written =>
    cases unescaped : unescape written with
    | error fault =>
      rw [Growth.step, unescaped] at stepped
      cases stepped
    | ok content =>
      rw [Growth.step, unescaped] at stepped
      cases stepped
      exact @Stepped.inside _ _ _ _ [.text (String.ofList content)] tagless (.text unescaped)
  | cdata content =>
    cases stepped
    exact @Stepped.inside _ _ _ _ [.text (String.ofList content)] tagless (.cdata content)
  | comment content =>
    cases stepped
    exact @Stepped.inside _ _ _ _ [.comment (String.ofList content)] tagless (.comment content)
  | ignored =>
    cases stepped
    have kept := @Stepped.inside _ inner outer root [] tagless .ignored
    rwa [adding_nil] at kept

/-- Nothing else happens in a step that succeeds. -/
theorem stepped_of_step {growth next : Growth} {event : Event}
    (stepped : growth.step event = .ok next) : Stepped growth event next := by
  obtain ⟨opened, root⟩ := growth
  cases event with
  | opening tag =>
    obtain ⟨element, taken, ⟨⟩⟩ := bind_eq_ok.mp stepped
    exact .opening taken
  | empty tag =>
    obtain ⟨element, taken, placed⟩ := bind_eq_ok.mp stepped
    exact .empty taken (place_eq_ok_iff.mp placed)
  | closing content =>
    cases opened with
    | nil => cases stepped
    | cons element outer => exact .closing (place_eq_ok_iff.mp stepped)
  | text | cdata | comment | ignored =>
    cases opened with
    | cons inner outer => exact stepped_of_content id stepped
    | nil =>
      cases stepped
      exact .outside id

/-- What shows inside an open element is added to it. -/
theorem step_of_content {event : Event} {marks : List Mark} (tagless : ¬ event.IsTag)
    (shows : event.Shows marks) :
    ∃ nodes, marksOfAll nodes = marks ∧ ∀ inner outer root,
      (⟨inner :: outer, root⟩ : Growth).step event =
        .ok ⟨inner.adding nodes :: outer, root⟩ := by
  cases shows with
  | opening | empty | closing => exact absurd trivial tagless
  | @text written content unescaped =>
    refine ⟨[.text (String.ofList content)], rfl, fun inner outer root => ?_⟩
    rw [Growth.step, unescaped]
    rfl
  | cdata content =>
    exact ⟨[.text (String.ofList content)], rfl, fun _ _ _ => rfl⟩
  | comment content =>
    exact ⟨[.comment (String.ofList content)], rfl, fun _ _ _ => rfl⟩
  | ignored =>
    refine ⟨[], rfl, fun inner outer root => ?_⟩
    rw [adding_nil]
    rfl

theorem step_of_opening {tag : Tag} {attributes : List (String × String)}
    (converts : tag.Converts attributes) (opened : List Element) (root : Option Element) :
    (⟨opened, root⟩ : Growth).step (.opening tag) =
      .ok ⟨⟨String.ofList (localName tag.name), attributes, []⟩ :: opened, root⟩ := by
  have taken := Tag.element_eq_ok_iff.mpr ⟨attributes, converts, rfl⟩
  rw [Growth.step, taken]
  rfl

theorem step_of_empty {tag : Tag} {attributes : List (String × String)}
    (converts : tag.Converts attributes) (growth : Growth) :
    growth.step (.empty tag) =
      growth.place ⟨String.ofList (localName tag.name), attributes, []⟩ := by
  have taken := Tag.element_eq_ok_iff.mpr ⟨attributes, converts, rfl⟩
  rw [Growth.step, taken]
  rfl

/-! ## Events inside an element -/

/-- Nested events that show add their nodes to the innermost open element and leave the others. -/
theorem steps_of_nested {events : List Event} {marks : List Mark} (nested : Nested events)
    (shows : ShowAll events marks) :
    ∃ nodes, marksOfAll nodes = marks ∧ ∀ inner outer root,
      (⟨inner :: outer, root⟩ : Growth).steps events =
        .ok ⟨inner.adding nodes :: outer, root⟩ := by
  induction nested generalizing marks with
  | nil =>
    cases shows
    refine ⟨[], rfl, fun inner outer root => ?_⟩
    rw [adding_nil]
    rfl
  | content tagless nested ih =>
    obtain _ | ⟨first, others⟩ := shows
    obtain ⟨nodes, nodes_marks, stepped⟩ := step_of_content tagless first
    obtain ⟨more, more_marks, ran⟩ := ih others
    refine ⟨nodes ++ more, by rw [marksOfAll_append, nodes_marks, more_marks], ?_⟩
    intro inner outer root
    rw [Growth.steps, stepped, ← adding_adding]
    exact ran (inner.adding nodes) outer root
  | empty tag nested ih =>
    obtain _ | ⟨first, others⟩ := shows
    cases first with
    | @empty _ attributes converts =>
      obtain ⟨more, more_marks, ran⟩ := ih others
      let node : Node := .element (String.ofList (localName tag.name)) attributes []
      refine ⟨node :: more, by simp [node, marksOfAll, Node.marks, more_marks], ?_⟩
      intro inner outer root
      rw [Growth.steps, step_of_empty converts, ← append_adding]
      exact ran (inner.append node) outer root
  | element tag content inner_nested nested inner_ih ih =>
    obtain _ | ⟨first, others⟩ := shows
    obtain ⟨front, back, inside_shows, _ | ⟨closes, rest_shows⟩, rfl⟩ :=
      showAll_append_iff.mp others
    cases closes
    cases first with
    | @opening _ attributes converts =>
      obtain ⟨nodes, nodes_marks, inner_ran⟩ := inner_ih inside_shows
      obtain ⟨more, more_marks, ran⟩ := ih rest_shows
      let node : Node := .element (String.ofList (localName tag.name)) attributes nodes
      refine ⟨node :: more,
        by simp [node, marksOfAll, Node.marks, nodes_marks, more_marks], ?_⟩
      intro inner outer root
      rw [Growth.steps, step_of_opening converts, ← append_adding]
      change Growth.steps _ _ = _
      rw [Growth.steps_append, inner_ran]
      exact ran (inner.append node) outer root

/-- Nested events that the builder takes show. -/
theorem shows_of_nested {events : List Event} (nested : Nested events) {inner : Element}
    {outer : List Element} {root : Option Element} {final : Growth}
    (ran : (⟨inner :: outer, root⟩ : Growth).steps events = .ok final) :
    ∃ marks, ShowAll events marks := by
  induction nested generalizing inner outer root final with
  | nil => exact ⟨[], .nil⟩
  | content tagless nested ih =>
    obtain ⟨next, stepped, ran⟩ := bind_eq_ok.mp ran
    cases stepped_of_step stepped with
    | inside _ shows =>
      obtain ⟨marks, others⟩ := ih ran
      exact ⟨_, .cons shows others⟩
    | opening | empty | closing => exact absurd trivial tagless
  | empty tag nested ih =>
    obtain ⟨next, stepped, ran⟩ := bind_eq_ok.mp ran
    cases stepped_of_step stepped with
    | empty taken placed =>
      obtain ⟨attributes, converts, -⟩ := Tag.element_eq_ok_iff.mp taken
      cases placed with
      | inside =>
        obtain ⟨marks, others⟩ := ih ran
        exact ⟨_, .cons (.empty converts) others⟩
    | inside tagless => exact absurd trivial tagless
  | element tag content inner_nested nested inner_ih ih =>
    obtain ⟨next, stepped, ran⟩ := bind_eq_ok.mp ran
    cases stepped_of_step stepped with
    | opening taken =>
      obtain ⟨attributes, converts, rfl⟩ := Tag.element_eq_ok_iff.mp taken
      rw [Growth.steps_append] at ran
      obtain ⟨closed, inner_ran, ran⟩ := bind_eq_ok.mp ran
      obtain ⟨inside_marks, inside_shows⟩ := inner_ih inner_ran
      -- Behind the inner events the element is the innermost open one again.
      obtain ⟨nodes, -, inner_steps⟩ := steps_of_nested inner_nested inside_shows
      rw [inner_steps] at inner_ran
      cases inner_ran
      obtain ⟨behind, closing, ran⟩ := bind_eq_ok.mp ran
      cases closing
      obtain ⟨marks, others⟩ := ih ran
      exact ⟨_, .cons (.opening converts)
        (showAll_append_iff.mpr ⟨_, _, inside_shows, .cons (.closing content) others, rfl⟩)⟩
    | inside tagless => exact absurd trivial tagless

/-! ## What is left of the events -/

/-- The events close as many open elements, and there is no tag behind that. -/
def Closes : Nat → List Event → Prop
  | 0, events => Tagless events
  | depth + 1, events => ∃ inside content rest,
      events = inside ++ .closing content :: rest ∧ Nested inside ∧ Closes depth rest

namespace Closes

variable {depth : Nat} {rest : List Event}

theorem content {event : Event} (tagless : ¬ event.IsTag) (closes : Closes depth rest) :
    Closes depth (event :: rest) := by
  cases depth with
  | zero => exact List.forall_mem_cons.mpr ⟨tagless, closes⟩
  | succ depth =>
    obtain ⟨inside, content, behind, rfl, nested, closes⟩ := closes
    exact ⟨event :: inside, content, behind, rfl, .content tagless nested, closes⟩

theorem empty (tag : Tag) (closes : Closes (depth + 1) rest) :
    Closes (depth + 1) (.empty tag :: rest) := by
  obtain ⟨inside, content, behind, rfl, nested, closes⟩ := closes
  exact ⟨.empty tag :: inside, content, behind, rfl, .empty tag nested, closes⟩

/-- The first end tag that is left closes the element that a start tag opens. -/
theorem opening (tag : Tag) (closes : Closes (depth + 2) rest) :
    Closes (depth + 1) (.opening tag :: rest) := by
  obtain ⟨inner, content, behind, rfl, inner_nested, inside, content', last, rfl, nested, closes⟩ :=
    closes
  exact ⟨.opening tag :: (inner ++ .closing content :: inside), content', last, by simp,
    .element tag content inner_nested nested, closes⟩

theorem closing (content : List Char) (closes : Closes depth rest) :
    Closes (depth + 1) (.closing content :: rest) :=
  ⟨[], content, rest, rfl, .nil, closes⟩

end Closes

/-- Behind the root, an element that is open stays open: it could not be placed. -/
theorem opened_ne_nil_of_root {events : List Event} {growth final : Growth}
    (ran : growth.steps events = .ok final) (root : growth.root ≠ none)
    (opened : growth.opened ≠ []) : final.opened ≠ [] := by
  induction events generalizing growth with
  | nil =>
    cases ran
    exact opened
  | cons event rest ih =>
    obtain ⟨next, stepped, ran⟩ := bind_eq_ok.mp ran
    cases stepped_of_step stepped with
    | opening => exact ih ran root (List.cons_ne_nil _ _)
    | empty taken placed =>
      cases placed with
      | inside => exact ih ran root (List.cons_ne_nil _ _)
      | root => exact absurd rfl opened
    | closing placed =>
      cases placed with
      | inside => exact ih ran root (List.cons_ne_nil _ _)
      | root => exact absurd rfl root
    | inside => exact ih ran root (List.cons_ne_nil _ _)
    | outside => exact absurd rfl opened

/-- A run that ends with nothing open closes what was open, element by element. -/
theorem closes_of_steps {events : List Event} {growth final : Growth}
    (ran : growth.steps events = .ok final) (closed : final.opened = [])
    (begun : growth.opened = [] → growth.root ≠ none) : Closes growth.opened.length events := by
  induction events generalizing growth with
  | nil =>
    cases ran
    rw [closed]
    exact nofun
  | cons event rest ih =>
    obtain ⟨next, stepped, ran⟩ := bind_eq_ok.mp ran
    cases stepped_of_step stepped with
    | @opening tag element opened root taken =>
      cases opened with
      | nil => exact absurd closed (opened_ne_nil_of_root ran (begun rfl) (List.cons_ne_nil _ _))
      | cons inner outer => exact (ih ran nofun).opening tag
    | @empty tag element _ _ taken placed =>
      cases placed with
      | inside => exact (ih ran nofun).empty tag
      | root => exact absurd rfl (begun rfl)
    | @closing content element outer root _ placed =>
      cases placed with
      | inside => exact (ih ran nofun).closing content
      | root => exact (ih ran nofun).closing content
    | inside tagless => exact (ih ran nofun).content tagless
    | outside tagless => exact (ih ran begun).content tagless

/-- The events of a complete tree have one root. -/
theorem exists_hasRoot_of_steps {events : List Event} {final : Growth}
    (ran : Growth.start.steps events = .ok final) (closed : final.opened = [])
    (rooted : final.root ≠ none) : ∃ before element after, HasRoot events before element after := by
  induction events with
  | nil =>
    cases ran
    exact absurd rfl rooted
  | cons event rest ih =>
    obtain ⟨next, stepped, ran⟩ := bind_eq_ok.mp ran
    cases stepped_of_step stepped with
    | @opening tag element taken =>
      obtain ⟨inside, content, after, rfl, nested, tagless⟩ := closes_of_steps ran closed nofun
      exact ⟨[], .opening tag :: (inside ++ [.closing content]), after, by simp, nofun,
        .element tag content nested, tagless⟩
    | @empty tag element _ _ taken placed =>
      cases placed with
      | root =>
        exact ⟨[], [.empty tag], rest, rfl, nofun, .empty tag, closes_of_steps ran closed nofun⟩
    | outside tagless =>
      obtain ⟨before, element, after, parts, before_tagless, one, after_tagless⟩ := ih ran
      exact ⟨event :: before, element, after, by rw [parts]; rfl,
        List.forall_mem_cons.mpr ⟨tagless, before_tagless⟩, one, after_tagless⟩

/-! ## Roots -/

/-- Events that are no tags leave a tree alone in which nothing is open. -/
theorem steps_of_tagless {events : List Event} (tagless : Tagless events)
    (root : Option Element) (later : List Event) :
    (⟨[], root⟩ : Growth).steps (events ++ later) = (⟨[], root⟩ : Growth).steps later := by
  induction events with
  | nil => rfl
  | cons event rest ih =>
    obtain ⟨first, others⟩ := List.forall_mem_cons.mp tagless
    have kept : (⟨[], root⟩ : Growth).step event = .ok ⟨[], root⟩ := by
      cases event with
      | opening | empty | closing => exact absurd trivial first
      | text | cdata | comment | ignored => rfl
    rw [List.cons_append, Growth.steps, kept]
    exact ih others

/-- A complete element that shows becomes the root. -/
theorem steps_of_element {events : List Event} {marks : List Mark} (one : OneElement events)
    (shows : ShowAll events marks) :
    ∃ root : Element, root.marks = marks ∧ Growth.start.steps events = .ok ⟨[], some root⟩ := by
  cases one with
  | empty tag =>
    obtain _ | ⟨first, ⟨⟩⟩ := shows
    cases first with
    | @empty _ attributes converts =>
      refine ⟨⟨String.ofList (localName tag.name), attributes, []⟩, rfl, ?_⟩
      rw [Growth.steps, step_of_empty converts]
      rfl
  | @element tag content inside inner =>
    obtain _ | ⟨first, others⟩ := shows
    obtain ⟨front, back, inside_shows, _ | ⟨⟨⟩, ⟨⟩⟩, rfl⟩ := showAll_append_iff.mp others
    cases first with
    | @opening _ attributes converts =>
      obtain ⟨nodes, nodes_marks, ran⟩ := steps_of_nested inner inside_shows
      refine ⟨⟨String.ofList (localName tag.name), attributes, nodes⟩, ?_, ?_⟩
      · simp [Element.marks, Element.toNode, Node.marks, nodes_marks]
      · rw [Growth.steps, Growth.start, step_of_opening converts]
        change Growth.steps _ _ = _
        rw [Growth.steps_append, ran]
        rfl

/-- A complete element that the builder takes shows. -/
theorem shows_of_element {events : List Event} {final : Growth} (one : OneElement events)
    (ran : Growth.start.steps events = .ok final) : ∃ marks, ShowAll events marks := by
  cases one with
  | empty tag =>
    obtain ⟨next, stepped, -⟩ := bind_eq_ok.mp ran
    cases stepped_of_step stepped with
    | empty taken placed =>
      obtain ⟨attributes, converts, -⟩ := Tag.element_eq_ok_iff.mp taken
      exact ⟨_, .cons (.empty converts) .nil⟩
    | outside tagless => exact absurd trivial tagless
  | element tag content inner =>
    obtain ⟨next, stepped, ran⟩ := bind_eq_ok.mp ran
    cases stepped_of_step stepped with
    | opening taken =>
      obtain ⟨attributes, converts, rfl⟩ := Tag.element_eq_ok_iff.mp taken
      rw [Growth.steps_append] at ran
      obtain ⟨closed, inner_ran, -⟩ := bind_eq_ok.mp ran
      obtain ⟨marks, shows⟩ := shows_of_nested inner inner_ran
      exact ⟨_, .cons (.opening converts)
        (showAll_append_iff.mpr ⟨_, _, shows, .cons (.closing content) .nil, rfl⟩)⟩
    | outside tagless => exact absurd trivial tagless

/-- A reading has a root exactly when it has no fault and its events leave that element complete and
none open. -/
theorem root_eq_ok_iff {reading : Reading} {root : Element} :
    reading.root = .ok root ↔
      reading.fault = none ∧ Growth.start.steps reading.events = .ok ⟨[], some root⟩ := by
  obtain ⟨events, fault⟩ := reading
  unfold Reading.root
  rw [bind_eq_ok]
  constructor
  · rintro ⟨⟨opened, found⟩, ran, ended⟩
    cases fault with
    | some fault => cases ended
    | none =>
      cases opened with
      | cons inner outer => cases ended
      | nil =>
        cases found with
        | none => cases ended
        | some other =>
          cases ended
          exact ⟨rfl, ran⟩
  · rintro ⟨rfl, ran⟩
    exact ⟨_, ran, rfl⟩

/-- Around a complete element that shows, whatever is no tag leaves no trace. -/
theorem exists_root_of_element {element : List Event} {marks : List Mark} (one : OneElement element)
    (shows : ShowAll element marks) :
    ∃ root : Element, root.marks = marks ∧ ∀ before after, Tagless before → Tagless after →
      (⟨before ++ (element ++ after), none⟩ : Reading).root = .ok root := by
  obtain ⟨root, root_marks, ran⟩ := steps_of_element one shows
  refine ⟨root, root_marks, fun before after before_tagless after_tagless => ?_⟩
  have behind : (⟨[], some root⟩ : Growth).steps after = .ok ⟨[], some root⟩ := by
    rw [← List.append_nil after, steps_of_tagless after_tagless]
    rfl
  rw [root_eq_ok_iff]
  refine ⟨rfl, ?_⟩
  rw [Growth.start, steps_of_tagless before_tagless, Growth.steps_append]
  rw [Growth.start] at ran
  rw [ran]
  exact behind

/-- A reading with a root has no fault, and its events are those of the root. -/
theorem shows_of_root {reading : Reading} {root : Element} (rooted : reading.root = .ok root)
    {before element after : List Event} (has : HasRoot reading.events before element after) :
    ShowAll element root.marks := by
  obtain ⟨fault_eq, ran⟩ := root_eq_ok_iff.mp rooted
  rw [has.parts, Growth.start, steps_of_tagless has.before_tagless, Growth.steps_append] at ran
  obtain ⟨closed, element_ran, -⟩ := bind_eq_ok.mp ran
  obtain ⟨marks, shows⟩ := shows_of_element has.one element_ran
  obtain ⟨other, other_marks, other_rooted⟩ := exists_root_of_element has.one shows
  have same := other_rooted before after has.before_tagless has.after_tagless
  rw [← has.parts, ← fault_eq] at same
  have other_eq : other = root := by
    change reading.root = .ok other at same
    rw [rooted] at same
    exact (Except.ok.inj same).symm
  rw [← other_eq, other_marks]
  exact shows

/-- All tags stand in the root. -/
theorem HasRoot.mem_iff {events before element after : List Event}
    (has : HasRoot events before element after) {event : Event} (tag : event.IsTag) :
    event ∈ events ↔ event ∈ element := by
  have outside : event ∉ before ∧ event ∉ after :=
    ⟨fun member => has.before_tagless event member tag,
      fun member => has.after_tagless event member tag⟩
  simp [has.parts, outside]

theorem HasRoot.tag_mem_iff {events before element after : List Event}
    (has : HasRoot events before element after) (tag : Tag) :
    .opening tag ∈ events ∨ .empty tag ∈ events ↔
      .opening tag ∈ element ∨ .empty tag ∈ element := by
  have opening_iff : .opening tag ∈ events ↔ .opening tag ∈ element := has.mem_iff trivial
  have empty_iff : .empty tag ∈ events ↔ .empty tag ∈ element := has.mem_iff trivial
  rw [opening_iff, empty_iff]

/-- A reading has a root exactly when it has no fault and its events hold one complete element, all
of whose events have marks. -/
theorem exists_root_iff (reading : Reading) :
    (∃ root, reading.root = .ok root) ↔
      reading.fault = none ∧ ∃ before element after,
        HasRoot reading.events before element after ∧ ∃ marks, ShowAll element marks := by
  constructor
  · rintro ⟨root, rooted⟩
    obtain ⟨fault_eq, ran⟩ := root_eq_ok_iff.mp rooted
    obtain ⟨before, element, after, has⟩ :=
      exists_hasRoot_of_steps ran rfl (Option.some_ne_none root)
    exact ⟨fault_eq, before, element, after, has, _, shows_of_root rooted has⟩
  · rintro ⟨fault_eq, before, element, after, has, marks, shows⟩
    obtain ⟨root, -, rooted⟩ := exists_root_of_element has.one shows
    have alone := rooted before after has.before_tagless has.after_tagless
    rw [← has.parts, ← fault_eq] at alone
    exact ⟨root, alone⟩

/-- A document has a tree exactly when it is read to its end, its tags form one complete element,
the attributes of every tag can be taken and every text inside the element can be unescaped.  The
walk over the tree then passes the marks of the events inside that element, and over no other tree.
Whatever is no tag outside the element leaves no trace, even a text that cannot be unescaped. -/
theorem tree_is_faithful_to_events (document : String) :
    ((∃ root, Element.parse document = .ok root) ↔
        (readEvents document).fault = none ∧
          (∀ tag, .opening tag ∈ (readEvents document).events ∨
              .empty tag ∈ (readEvents document).events → ∃ attributes, tag.Converts attributes) ∧
          ∃ before element after, HasRoot (readEvents document).events before element after ∧
            ∀ written, .text written ∈ element → ∃ content, unescape written = .ok content) ∧
      ∀ root before element after, Element.parse document = .ok root →
        HasRoot (readEvents document).events before element after →
          ShowAll element root.marks ∧
            (∀ other : Element, ShowAll element other.marks → other = root) ∧
            ∀ before' after', Tagless before' → Tagless after' →
              (⟨before' ++ (element ++ after'), none⟩ : Reading).root = .ok root := by
  constructor
  · have whole : (∃ root, Element.parse document = .ok root) ↔ _ :=
      exists_root_iff (readEvents document)
    rw [whole]
    apply and_congr_right
    intro _
    constructor
    · rintro ⟨before, element, after, has, shown⟩
      obtain ⟨tags, texts⟩ := (exists_showAll_iff element).mp shown
      refine ⟨?_, before, element, after, has, texts⟩
      intro tag member
      exact tags tag ((has.tag_mem_iff tag).mp member)
    · rintro ⟨tags, before, element, after, has, texts⟩
      refine ⟨before, element, after, has, (exists_showAll_iff element).mpr ⟨?_, texts⟩⟩
      intro tag member
      exact tags tag ((has.tag_mem_iff tag).mpr member)
  · intro root before element after parsed has
    have shows := shows_of_root parsed has
    refine ⟨shows, fun other other_shows => Element.eq_of_marks (other_shows.unique shows), ?_⟩
    obtain ⟨same, same_marks, rooted⟩ := exists_root_of_element has.one shows
    rw [Element.eq_of_marks same_marks] at rooted
    exact rooted

/-- A document with an unknown entity in front of the root and in a declaration. -/
def strayDocument : String :=
  "&nothing;<f:a xmlns:f='&nothing;' f:k='1&amp;2'>x &lt; y<![CDATA[&]]><b/><!--c--></f:a>"

/-- What is in its root. -/
def strayContent : List Event :=
  [.text "x &lt; y".toList, .cdata "&".toList, .empty ⟨"b".toList, []⟩, .comment "c".toList]

def strayTag : Tag :=
  ⟨"f:a".toList, " xmlns:f='&nothing;' f:k='1&amp;2'".toList⟩

def strayElement : Element :=
  ⟨"a", [("k", "1&2")], [.text "x < y", .text "&", .element "b" [] [], .comment "c"]⟩

/-- The document has the tree of its root alone. -/
theorem stray_entities_leave_no_trace :
    Element.parse strayDocument = .ok strayElement ∧
      ShowAll (.opening strayTag :: (strayContent ++ [.closing "f:a".toList]))
        strayElement.marks ∧
      (⟨.opening strayTag :: (strayContent ++ [.closing "f:a".toList]), none⟩ : Reading).root =
        .ok strayElement := by
  obtain ⟨-, faithful⟩ := tree_is_faithful_to_events strayDocument
  have parsed : Element.parse strayDocument = .ok strayElement :=
    eq_ok_of_toOption (by decide +kernel)
  have nested : Nested strayContent :=
    .content id (.content id (.empty _ (.content id .nil)))
  have has : HasRoot (readEvents strayDocument).events [.text "&nothing;".toList]
      (.opening strayTag :: (strayContent ++ [.closing "f:a".toList])) [] :=
    ⟨by decide +kernel, by simp [Tagless, Event.IsTag], .element _ _ nested, nofun⟩
  obtain ⟨shows, -, alone⟩ := faithful _ _ _ _ parsed has
  have rooted := alone [] [] nofun nofun
  rw [List.nil_append, List.append_nil] at rooted
  exact ⟨parsed, shows, rooted⟩

end SpatialFilter.Markup
