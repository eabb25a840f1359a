import SpatialFilter.Proofs.WrittenTokens

/-!
# Written documents

A tree can be written as a document if its names are names of XML, if no two texts stand side by
side and no text is empty, and if no comment holds two hyphens in a row.  However it is written,
the document is read as exactly this tree (`Element.parse_of_written`), so that no document stands
for two trees.

The proof follows the nodes of the document.  What is written for some nodes has events
(`Reads`) that are cut off in front of whatever follows, that leave the open tags as they are, and
that add just these nodes to the tree.  The three are shown together, because a node inside an
element needs each of them in front of the end tag.
-/

namespace SpatialFilter.Markup

open SpatialFilter.Text

def Node.IsText : Node → Prop
  | .text _ => True
  | _ => False

/-- The nodes can be written side by side: texts are not empty and stand apart, comments hold no two
hyphens in a row, names and keys are names of XML.  A comment may end in a hyphen. -/
inductive Writable : List Node → Prop
  | nil : Writable []
  | text {content : String} {rest : List Node} (some_text : content ≠ "")
      (apart : ∀ next ∈ rest.head?, ¬ next.IsText) (others : Writable rest) :
      Writable (.text content :: rest)
  | comment {content : String} {rest : List Node} (noHyphens : ¬ ['-', '-'] <:+: content.toList)
      (others : Writable rest) : Writable (.comment content :: rest)
  | element {name : String} {attributes : List (String × String)} {children rest : List Node}
      (named : isName name.toList = true) (keyed : WritableAttributes attributes)
      (inner : Writable children) (others : Writable rest) :
      Writable (.element name attributes children :: rest)

/-- The text is a way to write the nodes.  The end tag of an element repeats its start tag's name,
and an element without children has a second way. -/
inductive Written : List Node → List Char → Prop
  | nil : Written [] []
  | text {content : String} {rest : List Node} {behind : List Char} (others : Written rest behind) :
      Written (.text content :: rest) (escape content.toList ++ behind)
  | comment {content : String} {rest : List Node} {behind : List Char}
      (others : Written rest behind) :
      Written (.comment content :: rest)
        ("<!--".toList ++ content.toList ++ "-->".toList ++ behind)
  | element {name : String} {attributes : List (String × String)} {children rest : List Node}
      {tag : WrittenTag} {trail inside behind : List Char} (writes : tag.Writes name attributes)
      (trail_blank : Blanks trail) (inner : Written children inside)
      (others : Written rest behind) :
      Written (.element name attributes children :: rest)
        ('<' :: tag.text ++ '>' :: inside ++ "</".toList ++ tag.name.text ++ trail ++
          '>' :: behind)
  | childless {name : String} {attributes : List (String × String)} {rest : List Node}
      {tag : WrittenTag} {behind : List Char} (writes : tag.Writes name attributes)
      (others : Written rest behind) :
      Written (.element name attributes [] :: rest) ('<' :: tag.text ++ "/>".toList ++ behind)

/-! ## What the events of a text do -/

/-- Events in front of a reading. -/
def Reading.after (events : List Event) (reading : Reading) : Reading :=
  ⟨events ++ reading.events, reading.fault⟩

namespace Growth

/-- The tree after one more node. -/
def take (growth : Growth) (node : Node) : Except Fault Growth :=
  match node with
  | .element name attributes children => growth.place ⟨name, attributes, children⟩
  | node => growth.add (.ok node)

def takeAll (growth : Growth) : List Node → Except Fault Growth
  | [] => .ok growth
  | node :: rest => do
    let next ← growth.take node
    next.takeAll rest

theorem steps_append (growth : Growth) (events later : List Event) :
    growth.steps (events ++ later) = growth.steps events >>= fun next => next.steps later := by
  induction events generalizing growth with
  | nil => rfl
  | cons event rest ih =>
    rw [List.cons_append, steps, steps]
    cases growth.step event with
    | error fault => rfl
    | ok next => exact ih next

/-- Nodes are added to the innermost open element. -/
theorem takeAll_opened (inner : Element) (outer : List Element) (root : Option Element)
    (nodes : List Node) :
    (⟨inner :: outer, root⟩ : Growth).takeAll nodes =
      .ok ⟨{ inner with children := inner.children ++ nodes } :: outer, root⟩ := by
  induction nodes generalizing inner with
  | nil => rw [List.append_nil, takeAll]
  | cons node rest ih =>
    have step : (⟨inner :: outer, root⟩ : Growth).take node =
        .ok ⟨inner.append node :: outer, root⟩ := by
      cases node <;> rfl
    rw [takeAll, step]
    change (⟨inner.append node :: outer, root⟩ : Growth).takeAll rest = _
    rw [ih]
    simp [Element.append]

end Growth

/-- The text is read as events that stand for the nodes. -/
structure Reads (nodes : List Node) (text : List Char) (events : List Event) : Prop where
  scan_eq : ∀ rest, StopsAt isPlain rest → scan (text ++ rest) = (scan rest).after events
  matchNames_eq : ∀ opened fault rest,
    matchNames opened fault (events ++ rest) = (matchNames opened fault rest).after events
  steps_eq : ∀ growth : Growth, growth.steps events = growth.takeAll nodes

namespace Reads

variable {rest : List Node} {behind : List Char} {later : List Event}

theorem nil : Reads [] [] [] where
  scan_eq := fun _ _ => rfl
  matchNames_eq := fun _ _ _ => rfl
  steps_eq := fun _ => rfl

/-- A node that is written as one token. -/
theorem token {node : Node} {written : List Char} {event : Event}
    (cut : ∀ more, StopsAt isPlain more →
      scan (written ++ (behind ++ more)) = (scan (behind ++ more)).cons event)
    (passes : ∀ opened fault more,
      matchNames opened fault (event :: more) = (matchNames opened fault more).cons event)
    (grows : ∀ growth : Growth, growth.step event = growth.take node)
    (others : Reads rest behind later) :
    Reads (node :: rest) (written ++ behind) (event :: later) where
  scan_eq := by
    intro more stops
    rw [List.append_assoc, cut more stops, others.scan_eq more stops]
    rfl
  matchNames_eq := by
    intro opened fault more
    rw [List.cons_append, passes, others.matchNames_eq]
    rfl
  steps_eq := by
    intro growth
    rw [Growth.steps, grows, Growth.takeAll]
    cases growth.take node with
    | error fault => rfl
    | ok next => exact others.steps_eq next

/-- A text is read as one event, in its escaped form. -/
theorem text {content : String} (some_text : content ≠ "")
    (apart : ∀ more, StopsAt isPlain more → StopsAt isPlain (behind ++ more))
    (others : Reads rest behind later) :
    Reads (.text content :: rest) (escape content.toList ++ behind)
      (.text (escape content.toList) :: later) := by
  have written : escape content.toList ≠ [] := escape_ne_nil (by simpa using some_text)
  have plain : ∀ c ∈ escape content.toList, isPlain c = true := by
    intro c member
    rw [isPlain, bne_iff_ne]
    rintro rfl
    exact not_mem_escape content.toList (by decide) (by decide) member
  refine token (fun more stops => scan_text written plain (apart more stops))
    (fun _ _ _ => by simp only [matchNames]) ?_ others
  intro growth
  rw [Growth.step, unescape_escape]
  change growth.add (.ok (.text (String.ofList content.toList))) = _
  rw [String.ofList_toList]
  rfl

theorem comment {content : String} (noHyphens : ¬ ['-', '-'] <:+: content.toList)
    (others : Reads rest behind later) :
    Reads (.comment content :: rest)
      ("<!--".toList ++ content.toList ++ "-->".toList ++ behind)
      (.comment content.toList :: later) := by
  refine token (fun more _ => ?_) (fun _ _ _ => by simp only [matchNames]) ?_ others
  · rw [List.append_assoc, List.append_assoc, scan_comment noHyphens]
  · intro growth
    rw [Growth.step, String.ofList_toList]
    rfl

/-- An element without children is read from a tag that closes itself. -/
theorem childless {name : String} {attributes : List (String × String)} {tag : WrittenTag}
    (writes : tag.Writes name attributes) (keyed : WritableAttributes attributes)
    (others : Reads rest behind later) :
    Reads (.element name attributes [] :: rest) ('<' :: tag.text ++ "/>".toList ++ behind)
      (.empty (.ofContent tag.text) :: later) := by
  refine token (fun more _ => ?_) (fun _ _ _ => by simp only [matchNames]) ?_ others
  · rw [List.append_assoc]
    exact tag.scan_empty (behind ++ more)
  · intro growth
    rw [Growth.step, WrittenTag.element_of_writes writes keyed]
    rfl

variable {children : List Node} {inside : List Char} {events : List Event}

/-- An element is read from its two tags and what is read between them. -/
theorem element {name : String} {attributes : List (String × String)} {tag : WrittenTag}
    {trail : List Char} (writes : tag.Writes name attributes)
    (keyed : WritableAttributes attributes) (trail_blank : Blanks trail)
    (inner : Reads children inside events) (others : Reads rest behind later) :
    Reads (.element name attributes children :: rest)
      ('<' :: tag.text ++ '>' :: inside ++ "</".toList ++ tag.name.text ++ trail ++ '>' :: behind)
      (.opening (.ofContent tag.text) :: events ++
        .closing (tag.name.text ++ trail) :: later) where
  scan_eq := by
    intro more stops
    have closing : StopsAt isPlain
        ('<' :: '/' :: (tag.name.text ++ (trail ++ '>' :: (behind ++ more)))) :=
      stopsAt_cons _ rfl
    have pieces : '<' :: tag.text ++ '>' :: inside ++ "</".toList ++ tag.name.text ++ trail ++
        '>' :: behind ++ more = '<' :: (tag.text ++ '>' :: (inside ++
          '<' :: '/' :: (tag.name.text ++ (trail ++ '>' :: (behind ++ more))))) := by
      simp
    rw [pieces, tag.scan_opening, inner.scan_eq _ closing, scan_closing tag.name trail_blank,
      others.scan_eq more stops]
    simp [Reading.after, Reading.cons]
  matchNames_eq := by
    intro opened fault more
    have closed : ∀ reading : List Event,
        matchNames (tag.name.text :: opened) fault (.closing (tag.name.text ++ trail) :: reading) =
          (matchNames opened fault reading).cons (.closing (tag.name.text ++ trail)) := by
      intro reading
      rw [matchNames, closingName_text tag.name trail_blank, if_pos rfl]
    rw [List.append_assoc, List.cons_append, matchNames, tag.ofContent_text, inner.matchNames_eq,
      List.cons_append, closed, others.matchNames_eq]
    simp [Reading.after, Reading.cons]
  steps_eq := by
    intro growth
    have opening : growth.step (.opening (.ofContent tag.text)) =
        .ok { growth with opened := ⟨name, attributes, []⟩ :: growth.opened } := by
      rw [Growth.step, WrittenTag.element_of_writes writes keyed]
      rfl
    rw [List.cons_append, Growth.steps, opening, Growth.takeAll]
    change Growth.steps ⟨⟨name, attributes, []⟩ :: growth.opened, growth.root⟩ _ = _
    rw [Growth.steps_append, inner.steps_eq, Growth.takeAll_opened, List.nil_append]
    change growth.place ⟨name, attributes, children⟩ >>= (fun next => next.steps later) =
      growth.place ⟨name, attributes, children⟩ >>= fun next => next.takeAll rest
    congr 1
    exact funext others.steps_eq

end Reads

/-! ## Documents -/

/-- Only a text is written with something in front of the first bracket. -/
theorem Written.stopsAt {nodes : List Node} {text : List Char} (written : Written nodes text)
    (apart : ∀ first ∈ nodes.head?, ¬ first.IsText) {more : List Char}
    (stops : StopsAt isPlain more) : StopsAt isPlain (text ++ more) := by
  cases written with
  | nil => exact stops
  | text => exact absurd trivial (apart _ rfl)
  | comment => exact stopsAt_cons _ rfl
  | element => exact stopsAt_cons _ rfl
  | childless => exact stopsAt_cons _ rfl

/-- What is written for nodes is read as these nodes. -/
theorem Written.reads {nodes : List Node} {text : List Char} (written : Written nodes text)
    (writable : Writable nodes) : ∃ events, Reads nodes text events := by
  induction written with
  | nil => exact ⟨_, .nil⟩
  | text others ih =>
    cases writable with
    | text some_text apart writable =>
      obtain ⟨later, reads⟩ := ih writable
      exact ⟨_, .text some_text (fun more => others.stopsAt apart) reads⟩
  | comment others ih =>
    cases writable with
    | comment noHyphens writable =>
      obtain ⟨later, reads⟩ := ih writable
      exact ⟨_, .comment noHyphens reads⟩
  | element writes trail_blank inner others inner_ih others_ih =>
    cases writable with
    | element named keyed children writable =>
      obtain ⟨events, inner_reads⟩ := inner_ih children
      obtain ⟨later, reads⟩ := others_ih writable
      exact ⟨_, .element writes keyed trail_blank inner_reads reads⟩
  | childless writes others ih =>
    cases writable with
    | element named keyed children writable =>
      obtain ⟨later, reads⟩ := ih writable
      exact ⟨_, .childless writes keyed reads⟩

theorem withoutMark_of_stopsAt {text : List Char} (stops : StopsAt isPlain text) :
    withoutMark text = text := by
  unfold withoutMark
  split
  · cases stops '\uFEFF' rfl
  · rfl

/-- A document is read as the element that it is written for. -/
theorem Element.parse_of_written {element : Element} (writable : Writable [element.toNode])
    {document : String} (written : Written [element.toNode] document.toList) :
    Element.parse document = .ok element := by
  obtain ⟨events, reads⟩ := written.reads writable
  have starts : StopsAt isPlain document.toList := by
    have markup : ∀ first ∈ [element.toNode].head?, ¬ first.IsText := by
      rintro first ⟨⟩
      exact id
    have stops : StopsAt isPlain (document.toList ++ []) := written.stopsAt markup stopsAt_nil
    rwa [List.append_nil] at stops
  have scanned : scan document.toList = ⟨events, none⟩ := by
    have whole := reads.scan_eq [] stopsAt_nil
    rw [List.append_nil, scan] at whole
    rw [whole, Reading.after, List.append_nil]
  have matched : matchNames [] none events = ⟨events, none⟩ := by
    have whole := reads.matchNames_eq [] none []
    rw [List.append_nil, matchNames] at whole
    rw [whole, Reading.after, List.append_nil]
  have grown : Growth.start.steps events = .ok ⟨[], some element⟩ := reads.steps_eq .start
  unfold Element.parse readEvents
  simp only [withoutMark_of_stopsAt starts, scanned, matched]
  unfold Reading.root
  simp only [grown]
  rfl

/-- Attributes can be written without prefixes. -/
theorem WritableAttributes.exists_write {attributes : List (String × String)}
    (writable : WritableAttributes attributes) : ∃ entries, Entry.Write entries attributes := by
  induction attributes with
  | nil => exact ⟨[], .nil⟩
  | cons pair rest ih =>
    obtain ⟨key, value⟩ := pair
    obtain ⟨entries, write⟩ := ih writable.tail
    have named : isName key.toList = true := (writable.names key (by simp)).1
    let entry : Entry :=
      { gap := [' '], key := ⟨none, ⟨key.toList, named⟩⟩, before := [], after := [],
        quote := '"', value := escape value.toList,
        gap_blank := List.all_eq_true.mp rfl,
        separated := by decide,
        before_blank := nofun, after_blank := nofun,
        quoted := .inl rfl,
        unquoted := not_mem_escape value.toList (by decide) (by decide) }
    exact ⟨entry :: entries, .assigned rfl nofun rfl write⟩

/-- Whatever satisfies the conditions can be written. -/
theorem Writable.exists_written {nodes : List Node} (writable : Writable nodes) :
    ∃ text, Written nodes text := by
  induction writable with
  | nil => exact ⟨_, .nil⟩
  | text _ _ _ ih =>
    obtain ⟨behind, others⟩ := ih
    exact ⟨_, .text others⟩
  | comment _ _ ih =>
    obtain ⟨behind, others⟩ := ih
    exact ⟨_, .comment others⟩
  | @element name attributes children rest named keyed _ _ inner_ih others_ih =>
    obtain ⟨inside, inner⟩ := inner_ih
    obtain ⟨behind, others⟩ := others_ih
    obtain ⟨entries, write⟩ := keyed.exists_write
    let tag : WrittenTag :=
      { name := ⟨none, ⟨name.toList, named⟩⟩, entries, trail := [], trail_blank := nofun }
    have writes : tag.Writes name attributes := ⟨rfl, write⟩
    have no_trail : Blanks [] := nofun
    exact ⟨_, .element writes no_trail inner others⟩

/-- No document can be written for two trees. -/
theorem Element.eq_of_written {element other : Element} (writable : Writable [element.toNode])
    (other_writable : Writable [other.toNode]) {document : String}
    (written : Written [element.toNode] document.toList)
    (other_written : Written [other.toNode] document.toList) : element = other := by
  have read := parse_of_written writable written
  rw [parse_of_written other_writable other_written] at read
  cases read
  rfl

/-- A tree of well-formed names, texts and comments can be written as a document, and every document
that it is written as is read as exactly this tree: whatever prefixes are given to its names,
wherever declarations of namespaces stand, however its childless elements are closed. -/
theorem Element.every_writing_is_read_back {element : Element}
    (writable : Writable [element.toNode]) :
    (∃ document : String, Written [element.toNode] document.toList) ∧
      ∀ document : String, Written [element.toNode] document.toList →
        Element.parse document = .ok element := by
  constructor
  · obtain ⟨text, written⟩ := writable.exists_written
    exact ⟨String.ofList text, by rwa [String.toList_ofList]⟩
  · intro document written
    exact parse_of_written writable written

/-- An operator with a prefix, a declaration, entities in both positions, a comment that holds a
bracket, and childless elements that are closed in both ways. -/
def writtenBBOX : Element :=
  ⟨"BBOX", [("note", "a < b")],
    [.element "PropertyName" [] [.text "Q&A"], .comment " x > y ", .element "Box" [] [],
      .element "Box" [] []]⟩

def textOfBBOX : String :=
  "<f:BBOX xmlns:f='http://www.opengis.net/ogc' f:note = \"a &lt; b\" >" ++
    "<PropertyName>Q&amp;A</PropertyName><!-- x > y --><f:Box/><Box></Box></f:BBOX>"

theorem writable_writtenBBOX : Writable [writtenBBOX.toNode] := by
  have noAttributes : WritableAttributes [] := ⟨nofun, .nil⟩
  have note : WritableAttributes [("note", "a < b")] := ⟨by decide, by decide⟩
  have box : Writable [.element "Box" [] []] := .element (by decide) noAttributes .nil .nil
  have boxes : Writable [.element "Box" [] [], .element "Box" [] []] :=
    .element (by decide) noAttributes .nil box
  have noHyphens : ¬ ['-', '-'] <:+: " x > y ".toList := by decide +kernel
  have property : Writable [.text "Q&A"] := .text (by decide) nofun .nil
  have named : isName "PropertyName".toList = true := by decide +kernel
  exact .element (by decide) note
    (.element named noAttributes property (.comment noHyphens boxes)) .nil

def nameF : Name := ⟨"f".toList, by decide⟩

def declarationOfF : Entry where
  gap := [' ']
  key := ⟨some ⟨"xmlns".toList, by decide⟩, nameF⟩
  before := []
  after := []
  quote := '\x27'
  value := "http://www.opengis.net/ogc".toList
  gap_blank := List.all_eq_true.mp rfl
  separated := by decide
  before_blank := nofun
  after_blank := nofun
  quoted := .inr rfl
  unquoted := by decide

def noteInBBOX : Entry where
  gap := [' ']
  key := ⟨some nameF, ⟨"note".toList, by decide⟩⟩
  before := [' ']
  after := [' ']
  quote := '"'
  value := escape "a < b".toList
  gap_blank := List.all_eq_true.mp rfl
  separated := by decide
  before_blank := List.all_eq_true.mp rfl
  after_blank := List.all_eq_true.mp rfl
  quoted := .inl rfl
  unquoted := by decide

def tagOfBBOX : WrittenTag where
  name := ⟨some nameF, ⟨"BBOX".toList, by decide⟩⟩
  entries := [declarationOfF, noteInBBOX]
  trail := [' ']
  trail_blank := List.all_eq_true.mp rfl

def plainTag (space : Option Name) (base : Name) : WrittenTag :=
  ⟨⟨space, base⟩, [], [], nofun⟩

def nameBox : Name := ⟨"Box".toList, by decide⟩

def namePropertyName : Name := ⟨"PropertyName".toList, by decide +kernel⟩

theorem Written.congr {nodes : List Node} {text other : List Char} (written : Written nodes text)
    (same : other = text) : Written nodes other := by
  rwa [same]

theorem written_textOfBBOX : Written [writtenBBOX.toNode] textOfBBOX.toList := by
  have plain : ∀ {space : Option Name} {base : Name} {name : String}, base.chars = name.toList →
      (plainTag space base).Writes name [] := fun base_eq => ⟨base_eq, .nil⟩
  have writes : tagOfBBOX.Writes "BBOX" [("note", "a < b")] := by
    refine ⟨rfl, .declared rfl ?_ (.assigned rfl ?_ rfl .nil)⟩
    · intro other member
      rw [List.mem_singleton.1 member]
      decide
    · rintro space ⟨⟩
      decide
  have last := @Written.element "Box" [] [] [] (plainTag none nameBox) [] [] [] (plain rfl) nofun
    .nil .nil
  have boxes := @Written.childless "Box" [] _ (plainTag (some nameF) nameBox) _ (plain rfl) last
  have remark := @Written.comment " x > y " _ _ boxes
  have property := @Written.text "Q&A" _ _ .nil
  have children := @Written.element "PropertyName" [] _ _ (plainTag none namePropertyName) [] _ _
    (plain rfl) nofun property remark
  have whole := @Written.element "BBOX" _ _ _ tagOfBBOX [] _ _ writes nofun children .nil
  exact whole.congr (by decide +kernel)

theorem BBOX_is_read_back :
    Writable [writtenBBOX.toNode] ∧ Written [writtenBBOX.toNode] textOfBBOX.toList ∧
      Element.parse textOfBBOX = .ok writtenBBOX :=
  ⟨writable_writtenBBOX, written_textOfBBOX,
    (Element.every_writing_is_read_back writable_writtenBBOX).2 textOfBBOX written_textOfBBOX⟩

end SpatialFilter.Markup
