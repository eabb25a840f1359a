import SpatialFilter.Markup.Document
import SpatialFilter.Proofs.EscapedTexts

/-!
# Written tags

A tag is written for a name and attributes by giving the name and each key a prefix or none, by
putting declarations of namespaces anywhere between the attributes, and by choosing the quotes and
the blanks.  Whatever is chosen, the tag is read as the element with this name and these attributes
(`WrittenTag.element_of_writes`).

A key has a colon at most after its prefix, so its local part is the name it was written for, and
distinct attributes keep distinct keys.  The values are written as in `escape`, so either kind of
quotes can stand around them.
-/

namespace SpatialFilter.Markup

open SpatialFilter.Text

/-! ## Names -/

/-- The characters that can start a name, as inclusive ranges of code points. -/
def nameStartRanges : List (Nat × Nat) :=
  [(0x41, 0x5A), (0x5F, 0x5F), (0x61, 0x7A), (0xC0, 0xD6), (0xD8, 0xF6), (0xF8, 0x2FF),
    (0x370, 0x37D), (0x37F, 0x1FFF), (0x200C, 0x200D), (0x2070, 0x218F), (0x2C00, 0x2FEF),
    (0x3001, 0xD7FF), (0xF900, 0xFDCF), (0xFDF0, 0xFFFD), (0x10000, 0xEFFFF)]

/-- The characters that can follow in a name. -/
def nameRanges : List (Nat × Nat) :=
  nameStartRanges ++ [(0x2D, 0x2E), (0x30, 0x39), (0xB7, 0xB7), (0x300, 0x36F), (0x203F, 0x2040)]

def isInRanges (ranges : List (Nat × Nat)) (c : Char) : Bool :=
  ranges.any fun (first, last) => decide (first ≤ c.toNat) && decide (c.toNat ≤ last)

/-- The text is a name of XML without a colon. -/
def isName : List Char → Bool
  | [] => false
  | first :: rest => isInRanges nameStartRanges first && rest.all (isInRanges nameRanges)

/-- The characters besides the colon that end a name or mean something elsewhere in a tag. -/
def reserved : List Char :=
  ['<', '>', '/', '!', '?', '=', '"', '\x27', ' ', '\t', '\r', '\n']

theorem isInRanges_of_isName {text : List Char} (valid : isName text = true) {c : Char}
    (member : c ∈ text) : isInRanges nameRanges c = true := by
  cases text with
  | nil => cases member
  | cons first rest =>
    simp only [isName, Bool.and_eq_true, List.all_eq_true] at valid
    rcases List.mem_cons.1 member with rfl | later
    · simp only [isInRanges, nameRanges, List.any_append, Bool.or_eq_true]
      exact .inl valid.1
    · exact valid.2 c later

theorem not_reserved_of_isInRanges {c : Char} (inside : isInRanges nameRanges c = true) :
    c ∉ ':' :: reserved := by
  have outside : ((':' :: reserved).all fun mark => !isInRanges nameRanges mark) = true := by decide
  intro member
  have absent := List.all_eq_true.mp outside c member
  rw [inside] at absent
  cases absent

/-- A name without a colon. -/
structure Name where
  chars : List Char
  valid : isName chars = true

namespace Name

theorem chars_ne_nil (name : Name) : name.chars ≠ [] := by
  intro none_left
  have valid := name.valid
  rw [none_left] at valid
  cases valid

theorem not_reserved (name : Name) {c : Char} (member : c ∈ name.chars) : c ∉ ':' :: reserved :=
  not_reserved_of_isInRanges (isInRanges_of_isName name.valid member)

theorem colon_not_mem (name : Name) : ':' ∉ name.chars := fun member =>
  name.not_reserved member List.mem_cons_self

theorem notColon (name : Name) : ∀ c ∈ name.chars, (c != ':') = true := by
  intro c member
  rw [bne_iff_ne]
  rintro rfl
  exact name.colon_not_mem member

end Name

/-- A name with a prefix or without one. -/
structure QualifiedName where
  space : Option Name
  base : Name

namespace QualifiedName

/-- The name as it is written. -/
def text (name : QualifiedName) : List Char :=
  match name.space with
  | none => name.base.chars
  | some space => space.chars ++ ':' :: name.base.chars

/-- As a key, the name declares a namespace: it is `xmlns`, or that is its prefix. -/
def Declares (name : QualifiedName) : Prop :=
  (name.space.getD name.base).chars = "xmlns".toList

theorem text_ne_nil (name : QualifiedName) : name.text ≠ [] := by
  unfold text
  split
  · exact name.base.chars_ne_nil
  · simp

theorem not_reserved (name : QualifiedName) {c : Char} (member : c ∈ name.text) :
    c ∉ reserved := by
  have plain : ∀ part : Name, c ∈ part.chars → c ∉ reserved := fun part inside listed =>
    part.not_reserved inside (List.mem_cons_of_mem _ listed)
  unfold text at member
  split at member
  · exact plain name.base member
  · rename_i space _
    simp only [List.mem_append, List.mem_cons] at member
    rcases member with front | rfl | back
    · exact plain space front
    · decide
    · exact plain name.base back

/-- The local part of a name is its base, with a prefix or without. -/
theorem localName_text (name : QualifiedName) : localName name.text = name.base.chars := by
  unfold localName text
  cases name.space with
  | none =>
    rw [← List.append_nil name.base.chars, dropWhile_run name.base.notColon stopsAt_nil]
  | some space =>
    rw [dropWhile_run space.notColon (stopsAt_cons _ rfl)]

/-- The keys that are dropped are the declarations of namespaces. -/
theorem isNamespaceKey_text_iff (key : QualifiedName) :
    isNamespaceKey key.text = true ↔ key.Declares := by
  have alone : ∀ name : Name, ¬ "xmlns:".toList <+: name.chars := fun name start =>
    name.colon_not_mem (start.subset (by decide))
  unfold isNamespaceKey text Declares
  simp only [Bool.or_eq_true, beq_iff_eq, List.isPrefixOf_iff_prefix]
  cases key.space with
  | none => simp only [Option.getD_none, alone key.base, or_false]
  | some space =>
    have longer : space.chars ++ ':' :: key.base.chars ≠ "xmlns".toList := by
      intro same
      have colon : ':' ∈ "xmlns".toList := by
        rw [← same]
        simp
      revert colon
      decide
    simp only [longer, false_or, Option.getD_some]
    constructor
    · rintro ⟨rest, same⟩
      have fronts := congrArg (List.takeWhile fun c => c != ':') same
      rw [takeWhile_run space.notColon (stopsAt_cons _ rfl)] at fronts
      exact fronts.symm
    · intro declares
      exact ⟨key.base.chars, by rw [declares]; rfl⟩

end QualifiedName

/-! ## Attributes and declarations -/

def Blanks (text : List Char) : Prop :=
  ∀ c ∈ text, isBlank c = true

/-- An attribute or a declaration as it is written in a tag. -/
structure Entry where
  /-- The blanks in front of the key. -/
  gap : List Char
  key : QualifiedName
  /-- The blanks between the key and the equals sign. -/
  before : List Char
  /-- The blanks between the equals sign and the value. -/
  after : List Char
  quote : Char
  /-- The value as it is written. -/
  value : List Char
  gap_blank : Blanks gap
  separated : gap ≠ []
  before_blank : Blanks before
  after_blank : Blanks after
  quoted : quote = '"' ∨ quote = '\x27'
  unquoted : quote ∉ value

namespace Entry

/-- The entry after its key. -/
def tail (entry : Entry) : List Char :=
  entry.before ++ '=' :: (entry.after ++ entry.quote :: (entry.value ++ [entry.quote]))

def text (entry : Entry) : List Char :=
  entry.gap ++ (entry.key.text ++ entry.tail)

/-- The attributes that the entries of a tag are written for.  A prefix of an attribute is never
`xmlns`, and no two declarations have the same key. -/
inductive Write : List Entry → List (String × String) → Prop
  | nil : Write [] []
  | assigned {entry : Entry} {key value : String} {entries : List Entry}
      {attributes : List (String × String)} (key_eq : entry.key.base.chars = key.toList)
      (undeclared : ∀ space ∈ entry.key.space, space.chars ≠ "xmlns".toList)
      (value_eq : entry.value = escape value.toList) (others : Write entries attributes) :
      Write (entry :: entries) ((key, value) :: attributes)
  | declared {entry : Entry} {entries : List Entry} {attributes : List (String × String)}
      (declares : entry.key.Declares)
      (new : ∀ other ∈ entries, other.key.text ≠ entry.key.text)
      (others : Write entries attributes) :
      Write (entry :: entries) attributes

end Entry

/-- The attributes that an element can be written with. -/
structure WritableAttributes (attributes : List (String × String)) : Prop where
  names : ∀ key ∈ attributes.map Prod.fst, isName key.toList = true ∧ key ≠ "xmlns"
  distinct : (attributes.map Prod.fst).Nodup

/-- A value is read up to the quote that it stands in. -/
theorem quotedValue_run (total : Nat) (entry : Entry) (rest : List Char) :
    quotedValue total (entry.after ++ entry.quote :: (entry.value ++ entry.quote :: rest)) =
      .ok (entry.value, rest) := by
  have quote_stops : StopsAt isBlank (entry.quote :: (entry.value ++ entry.quote :: rest)) := by
    apply stopsAt_cons
    rcases entry.quoted with quote | quote <;> rw [quote] <;> rfl
  have inside : ∀ c ∈ entry.value, (c != entry.quote) = true := by
    intro c member
    rw [bne_iff_ne]
    rintro rfl
    exact entry.unquoted member
  have closes : StopsAt (fun c => c != entry.quote) (entry.quote :: rest) :=
    stopsAt_cons rest (by simp)
  unfold quotedValue
  rw [dropWhile_run entry.after_blank quote_stops]
  simp only [entry.quoted, if_true, dropWhile_run inside closes, takeWhile_run inside closes]

theorem inKey_of_not_reserved {c : Char} (plain : c ∉ reserved) : inKey c = true := by
  simp only [reserved, List.mem_cons, List.not_mem_nil, or_false, not_or] at plain
  simp [inKey, isBlank, plain]

theorem not_isBlank_of_not_reserved {c : Char} (plain : c ∉ reserved) : isBlank c = false := by
  simp only [reserved, List.mem_cons, List.not_mem_nil, or_false, not_or] at plain
  simp [isBlank, plain]

/-- A key ends in front of a blank or an equals sign. -/
theorem stopsAt_tail (entry : Entry) (rest : List Char) : StopsAt inKey (entry.tail ++ rest) := by
  unfold Entry.tail
  cases blanks : entry.before with
  | nil => exact stopsAt_cons _ rfl
  | cons c more =>
    have blank : isBlank c = true := entry.before_blank c (by simp [blanks])
    exact stopsAt_cons _ (by simp [inKey, blank])

/-- An entry with a new key is read as an attribute, whatever blanks it is written with. -/
theorem nextAttribute_entry (total : Nat) {seen : List WrittenAttribute} {entry : Entry}
    (new : ∀ earlier ∈ seen, earlier.key ≠ entry.key.text) (rest : List Char) :
    ∃ position, nextAttribute total seen (entry.text ++ rest) =
      .ok (some (⟨entry.key.text, entry.value, position⟩, rest)) := by
  obtain ⟨first, others, key_eq⟩ := List.exists_cons_of_ne_nil entry.key.text_ne_nil
  have plain : ∀ c ∈ first :: others, c ∉ reserved := fun c member =>
    entry.key.not_reserved (key_eq ▸ member)
  have starts : StopsAt isBlank (first :: (others ++ (entry.tail ++ rest))) :=
    stopsAt_cons _ (not_isBlank_of_not_reserved (plain first List.mem_cons_self))
  have inside : ∀ c ∈ others, inKey c = true := fun c member =>
    inKey_of_not_reserved (plain c (List.mem_cons_of_mem _ member))
  have equals : StopsAt isBlank
      ('=' :: (entry.after ++ entry.quote :: (entry.value ++ entry.quote :: rest))) :=
    stopsAt_cons _ rfl
  have unseen : (seen.find? fun earlier => earlier.key == first :: others) = none := by
    rw [List.find?_eq_none]
    intro earlier member
    rw [beq_iff_eq, ← key_eq]
    exact new earlier member
  have tail_eq : entry.tail ++ rest = entry.before ++
      '=' :: (entry.after ++ entry.quote :: (entry.value ++ entry.quote :: rest)) := by
    simp [Entry.tail]
  refine ⟨total - byteLength (first :: (others ++ (entry.tail ++ rest))), ?_⟩
  unfold nextAttribute Entry.text
  rw [List.append_assoc, List.append_assoc, key_eq, List.cons_append,
    dropWhile_run entry.gap_blank starts]
  unfold writtenAttribute
  simp only [takeWhile_run inside (stopsAt_tail entry rest),
    dropWhile_run inside (stopsAt_tail entry rest)]
  rw [tail_eq, dropWhile_run entry.before_blank equals]
  simp only [if_true, unseen, quotedValue_run]
  rfl

theorem nextAttribute_blank (total : Nat) (seen : List WrittenAttribute) {trail : List Char}
    (blank : Blanks trail) : nextAttribute total seen trail = .ok none := by
  unfold nextAttribute
  rw [← List.append_nil trail, dropWhile_run blank stopsAt_nil]

/-! ## Reading the attributes -/

theorem readAttributes_eq_match (total : Nat) (seen : List WrittenAttribute) (text : List Char) :
    readAttributes total seen text =
      match nextAttribute total seen text with
      | .error fault => .error (.badAttribute fault)
      | .ok none => .ok []
      | .ok (some (written, after)) =>
        if isNamespaceKey written.key then readAttributes total (written :: seen) after
        else do
          let value ← unescape written.value
          let others ← readAttributes total (written :: seen) after
          return (String.ofList (localName written.key), String.ofList value) :: others := by
  rw [readAttributes]
  split
  next found => rw [found]
  next found => rw [found]
  next found => simp only [found]

/-- One attribute is read, then the others. -/
theorem readAttributes_next {total : Nat} {seen : List WrittenAttribute} {text after : List Char}
    {written : WrittenAttribute}
    (next : nextAttribute total seen text = .ok (some (written, after))) :
    readAttributes total seen text =
      if isNamespaceKey written.key then readAttributes total (written :: seen) after
      else do
        let value ← unescape written.value
        let others ← readAttributes total (written :: seen) after
        return (String.ofList (localName written.key), String.ofList value) :: others := by
  rw [readAttributes_eq_match, next]

theorem readAttributes_blank (total : Nat) (seen : List WrittenAttribute) {trail : List Char}
    (blank : Blanks trail) : readAttributes total seen trail = .ok [] := by
  rw [readAttributes_eq_match, nextAttribute_blank total seen blank]

/-- None of the entries has the key of an attribute that was read before. -/
def Entry.Unseen (seen : List WrittenAttribute) (entries : List Entry) : Prop :=
  ∀ entry ∈ entries, ∀ earlier ∈ seen, earlier.key ≠ entry.key.text

theorem Entry.unseen_cons {seen : List WrittenAttribute} {entry : Entry} {entries : List Entry}
    {position : Nat} (new : Unseen seen (entry :: entries))
    (apart : ∀ other ∈ entries, other.key.text ≠ entry.key.text) :
    Unseen (⟨entry.key.text, entry.value, position⟩ :: seen) entries := by
  intro other member earlier known
  rcases List.mem_cons.1 known with rfl | before
  · exact (apart other member).symm
  · exact new other (List.mem_cons_of_mem _ member) earlier before

theorem not_declares_of_undeclared {key : QualifiedName}
    (undeclared : ∀ space ∈ key.space, space.chars ≠ "xmlns".toList)
    (other : key.base.chars ≠ "xmlns".toList) : ¬ key.Declares := by
  unfold QualifiedName.Declares
  cases prefixed : key.space with
  | none => exact other
  | some space => exact undeclared space prefixed

namespace WritableAttributes

variable {key value : String} {attributes : List (String × String)}

theorem tail (writable : WritableAttributes ((key, value) :: attributes)) :
    WritableAttributes attributes where
  names := fun other member => writable.names other (List.mem_cons_of_mem _ member)
  distinct := (List.nodup_cons.1 writable.distinct).2

theorem not_declares (writable : WritableAttributes ((key, value) :: attributes))
    {name : QualifiedName} (base_eq : name.base.chars = key.toList)
    (undeclared : ∀ space ∈ name.space, space.chars ≠ "xmlns".toList) : ¬ name.Declares := by
  apply not_declares_of_undeclared undeclared
  intro same
  apply (writable.names key (by simp)).2
  exact String.toList_inj.1 (base_eq.symm.trans same)

end WritableAttributes

namespace Entry.Write

variable {entries : List Entry} {attributes : List (String × String)}

/-- Each entry declares a namespace, or its local part is the key of an attribute. -/
theorem declares_or_mem (written : Write entries attributes) :
    ∀ entry ∈ entries, entry.key.Declares ∨
      String.ofList entry.key.base.chars ∈ attributes.map Prod.fst := by
  induction written with
  | nil => simp
  | @assigned entry key value entries attributes key_eq _ _ _ ih =>
    intro other member
    rcases List.mem_cons.1 member with rfl | later
    · exact .inr (by simp [key_eq])
    · exact (ih other later).imp_right (List.mem_cons_of_mem _)
  | @declared entry entries attributes declares _ _ ih =>
    intro other member
    rcases List.mem_cons.1 member with rfl | later
    · exact .inl declares
    · exact ih other later

/-- No two entries have the same key. -/
theorem pairwise_keys (written : Write entries attributes)
    (writable : WritableAttributes attributes) :
    entries.Pairwise fun first second => second.key.text ≠ first.key.text := by
  induction written with
  | nil => exact .nil
  | @assigned entry key value entries attributes key_eq undeclared _ others ih =>
    refine .cons ?_ (ih writable.tail)
    intro other later same
    rcases others.declares_or_mem other later with declares | known
    · rw [← QualifiedName.isNamespaceKey_text_iff, same,
        QualifiedName.isNamespaceKey_text_iff] at declares
      exact writable.not_declares key_eq undeclared declares
    · have base_eq : other.key.base.chars = entry.key.base.chars := by
        rw [← other.key.localName_text, same, entry.key.localName_text]
      rw [base_eq, key_eq, String.ofList_toList] at known
      exact (List.nodup_cons.1 writable.distinct).1 known
  | @declared entry entries attributes declares new _ ih =>
    exact .cons new (ih writable)

/-- The entries of a tag are read as the attributes they are written for. -/
theorem readAttributes_eq (written : Write entries attributes)
    (writable : WritableAttributes attributes) {trail : List Char} (trail_blank : Blanks trail)
    (total : Nat) {seen : List WrittenAttribute}
    (new : Unseen seen entries) :
    readAttributes total seen (entries.flatMap Entry.text ++ trail) = .ok attributes := by
  have apart := written.pairwise_keys writable
  -- the attributes that were read before grow by one in each step
  induction written generalizing seen with
  | nil => exact readAttributes_blank total seen trail_blank
  | @assigned entry key value entries attributes key_eq undeclared value_eq _ ih =>
    rw [List.pairwise_cons] at apart
    obtain ⟨position, next⟩ := nextAttribute_entry total (new entry List.mem_cons_self)
      (entries.flatMap Entry.text ++ trail)
    rw [List.flatMap_cons, List.append_assoc, readAttributes_next next,
      if_neg (mt entry.key.isNamespaceKey_text_iff.1 (writable.not_declares key_eq undeclared)),
      ih writable.tail _ apart.2]
    · simp only [value_eq, unescape_escape, entry.key.localName_text, key_eq]
      change Except.ok ((String.ofList key.toList, String.ofList value.toList) :: attributes) = _
      rw [String.ofList_toList, String.ofList_toList]
    · exact unseen_cons new apart.1
  | @declared entry entries attributes declares _ _ ih =>
    rw [List.pairwise_cons] at apart
    obtain ⟨position, next⟩ := nextAttribute_entry total (new entry List.mem_cons_self)
      (entries.flatMap Entry.text ++ trail)
    rw [List.flatMap_cons, List.append_assoc, readAttributes_next next,
      if_pos (entry.key.isNamespaceKey_text_iff.2 declares), ih writable _ apart.2]
    exact unseen_cons new apart.1

end Entry.Write

/-! ## Tags -/

/-- A start tag or an empty-element tag as it is written between its brackets. -/
structure WrittenTag where
  name : QualifiedName
  entries : List Entry
  /-- The blanks at the end. -/
  trail : List Char
  trail_blank : Blanks trail

namespace WrittenTag

/-- The tag after its name. -/
def rest (tag : WrittenTag) : List Char :=
  tag.entries.flatMap Entry.text ++ tag.trail

def text (tag : WrittenTag) : List Char :=
  tag.name.text ++ tag.rest

/-- The tag is written for an element with this name and these attributes. -/
structure Writes (tag : WrittenTag) (name : String) (attributes : List (String × String)) :
    Prop where
  name_eq : tag.name.base.chars = name.toList
  entries : Entry.Write tag.entries attributes

/-- What follows the name starts with a blank, or is empty. -/
theorem stopsAt_rest (tag : WrittenTag) : StopsAt (fun c => !isBlank c) tag.rest := by
  have outside : ∀ {gap : List Char}, Blanks gap → ∀ c ∈ gap, (!isBlank c) = false := by
    intro gap blank c member
    rw [blank c member, Bool.not_true]
  unfold rest
  cases tag.entries with
  | nil => exact stopsAt_of_outside (outside tag.trail_blank)
  | cons entry entries =>
    rw [List.flatMap_cons, Entry.text, List.append_assoc, List.append_assoc]
    exact stopsAt_append entry.separated (outside entry.gap_blank) _

theorem ofContent_text (tag : WrittenTag) : Tag.ofContent tag.text = ⟨tag.name.text, tag.rest⟩ := by
  have inside : ∀ c ∈ tag.name.text, (!isBlank c) = true := by
    intro c member
    rw [not_isBlank_of_not_reserved (tag.name.not_reserved member), Bool.not_false]
  rw [Tag.ofContent, text, takeWhile_run inside tag.stopsAt_rest,
    dropWhile_run inside tag.stopsAt_rest]

/-- A tag is read as the element that it is written for, so far without children. -/
theorem element_of_writes {tag : WrittenTag} {name : String} {attributes : List (String × String)}
    (writes : tag.Writes name attributes) (writable : WritableAttributes attributes) :
    (Tag.ofContent tag.text).element = .ok ⟨name, attributes, []⟩ := by
  have read : (Tag.ofContent tag.text).attributes = .ok attributes := by
    rw [ofContent_text]
    exact writes.entries.readAttributes_eq writable tag.trail_blank _ nofun
  unfold Tag.element
  rw [read, ofContent_text]
  change Except.ok (Element.mk (String.ofList (localName tag.name.text)) attributes []) = _
  rw [tag.name.localName_text, writes.name_eq, String.ofList_toList]

end WrittenTag

end SpatialFilter.Markup
