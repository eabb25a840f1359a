import SpatialFilter.Markup.Entity

/-!
# Attributes

A tag holds a name and attributes.  Names and keys keep what follows their first colon, and
declarations of namespaces are dropped.  Attributes are read one by one, each completely
before the next, so that the first fault in the tag is the one that is reported.
-/

namespace SpatialFilter.Markup

open SpatialFilter.Text

/-- Blanks of markup, which are four characters. -/
def isBlank (c : Char) : Bool :=
  c == ' ' || c == '\t' || c == '\r' || c == '\n'

/-- The part of a name after its first colon, or all of it. -/
def localName (name : List Char) : List Char :=
  match name.dropWhile fun c => c != ':' with
  | [] => name
  | _ :: rest => rest

def isNamespaceKey (key : List Char) : Bool :=
  key == "xmlns".toList || "xmlns:".toList.isPrefixOf key

/-- A start tag or an empty-element tag. -/
structure Tag where
  /-- The name with its prefix. -/
  name : List Char
  /-- What follows the name. -/
  rest : List Char
  deriving DecidableEq, Repr

def Tag.ofContent (content : List Char) : Tag :=
  ⟨content.takeWhile fun c => !isBlank c, content.dropWhile fun c => !isBlank c⟩

/-- Part of a key, after its first character. -/
def inKey (c : Char) : Bool :=
  c != '=' && !isBlank c

/-- An attribute as it is written. -/
structure WrittenAttribute where
  key : List Char
  value : List Char
  /-- Where the key starts. -/
  position : Nat
  deriving DecidableEq, Repr

/-- The value of an attribute after its equals sign, and what follows it.  `total` is the
length of the tag. -/
def quotedValue (total : Nat) (text : List Char) :
    Except AttributeFault (List Char × List Char) :=
  match text.dropWhile isBlank with
  | [] => .error (.noValue total)
  | quote :: body =>
    if quote = '"' ∨ quote = '\x27' then
      match body.dropWhile fun c => c != quote with
      | [] => .error (.unclosed total quote)
      | _ :: after => .ok (body.takeWhile fun c => c != quote, after)
    else .error (.unquoted (total - byteLength (quote :: body)))

/-- The attribute that starts at a key, and what follows it.  The key is its first character,
whatever it is, and what follows up to a blank or an equals sign. -/
def writtenAttribute (total : Nat) (seen : List WrittenAttribute) (first : Char)
    (text : List Char) : Except AttributeFault (WrittenAttribute × List Char) :=
  let position := total - byteLength (first :: text)
  let key := first :: text.takeWhile inKey
  match (text.dropWhile inKey).dropWhile isBlank with
  | [] => .error (.noEquals total)
  | c :: rest =>
    if c = '=' then
      match seen.find? fun earlier => earlier.key == key with
      | some earlier => .error (.duplicate position earlier.position)
      | none => do
        let (value, after) ← quotedValue total rest
        return (⟨key, value, position⟩, after)
    else .error (.noEquals (total - byteLength (c :: rest)))

theorem length_of_quotedValue {total : Nat} {text value after : List Char}
    (h : quotedValue total text = .ok (value, after)) : after.length < text.length := by
  unfold quotedValue at h
  have outer := length_dropWhile_le isBlank text
  split at h
  · cases h
  · rename_i quote body split
    rw [split] at outer
    split at h
    · have inner := length_dropWhile_le (fun c => c != quote) body
      split at h
      · cases h
      · rename_i inside
        rw [inside] at inner
        cases h
        simp only [List.length_cons] at inner outer
        omega
    · cases h

theorem length_of_writtenAttribute {total : Nat} {seen : List WrittenAttribute} {first : Char}
    {text after : List Char} {written : WrittenAttribute}
    (h : writtenAttribute total seen first text = .ok (written, after)) :
    after.length < text.length := by
  unfold writtenAttribute at h
  have keyBound := length_dropWhile_le inKey text
  have gapBound := length_dropWhile_le isBlank (text.dropWhile inKey)
  simp only at h
  split at h
  · cases h
  · rename_i c rest split
    rw [split] at gapBound
    split at h
    · split at h
      · cases h
      · cases value : quotedValue total rest with
        | error fault => simp [value, bind, Except.bind] at h
        | ok found =>
          obtain ⟨inside, tail⟩ := found
          simp only [value, bind, Except.bind, pure, Except.pure, Except.ok.injEq,
            Prod.mk.injEq] at h
          obtain ⟨-, rfl⟩ := h
          have := length_of_quotedValue value
          simp only [List.length_cons] at gapBound
          omega
    · cases h

/-- The next attribute in the rest of a tag, if there is one, and what follows it. -/
def nextAttribute (total : Nat) (seen : List WrittenAttribute) (text : List Char) :
    Except AttributeFault (Option (WrittenAttribute × List Char)) :=
  match text.dropWhile isBlank with
  | [] => .ok none
  | first :: rest => (writtenAttribute total seen first rest).map some

theorem length_of_nextAttribute {total : Nat} {seen : List WrittenAttribute}
    {text after : List Char} {written : WrittenAttribute}
    (h : nextAttribute total seen text = .ok (some (written, after))) :
    after.length < text.length := by
  unfold nextAttribute at h
  have outer := length_dropWhile_le isBlank text
  split at h
  · cases h
  · rename_i first rest skipped
    rw [skipped] at outer
    cases read : writtenAttribute total seen first rest with
    | error fault => simp [read, Except.map] at h
    | ok found =>
      simp only [read, Except.map, Except.ok.injEq, Option.some.injEq] at h
      subst h
      have inner := length_of_writtenAttribute read
      simp only [List.length_cons] at outer
      omega

/-- The attributes in the rest of a tag, in order, by the local parts of their keys.  `seen`
are the attributes before, and `total` is the length of the tag. -/
def readAttributes (total : Nat) (seen : List WrittenAttribute) (text : List Char) :
    Except Fault (List (String × String)) :=
  match h : nextAttribute total seen text with
  | .error fault => .error (.badAttribute fault)
  | .ok none => .ok []
  | .ok (some (written, after)) =>
    have := length_of_nextAttribute h
    if isNamespaceKey written.key then readAttributes total (written :: seen) after
    else do
      let value ← unescape written.value
      let others ← readAttributes total (written :: seen) after
      return (String.ofList (localName written.key), String.ofList value) :: others
termination_by text.length

def Tag.attributes (tag : Tag) : Except Fault (List (String × String)) :=
  readAttributes (byteLength tag.name + byteLength tag.rest) [] tag.rest

end SpatialFilter.Markup
