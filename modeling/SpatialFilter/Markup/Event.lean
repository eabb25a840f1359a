import SpatialFilter.Markup.Attribute

/-!
# Events of a document

A document is cut into texts, tags, comments and the rest, from left to right, up to its end
or to the first fault.  Only what begins with `<` is markup; a `<` at the very end is nothing.
End tags must name the innermost element that is open, with its prefix.
-/

namespace SpatialFilter.Markup

/-- A piece of a document. -/
inductive Event where
  /-- A text as it is written, entities included. -/
  | text (written : List Char)
  | opening (tag : Tag)
  /-- A tag that opens and closes an element. -/
  | empty (tag : Tag)
  /-- An end tag, by what follows its slash. -/
  | closing (content : List Char)
  /-- A text that holds no entities. -/
  | cdata (content : List Char)
  | comment (content : List Char)
  /-- A document type, a declaration or a processing instruction. -/
  | ignored
  deriving DecidableEq, Repr

/-- Splits at the first `>` before which `isEnd` holds.  `isEnd` sees the characters that were
passed, the last one first, and with them those in `passed`. -/
def splitAtEnd (isEnd : List Char → Bool) (passed : List Char) :
    List Char → Option (List Char × List Char)
  | [] => none
  | c :: rest =>
    if c = '>' ∧ isEnd passed then some (passed.reverse, rest)
    else splitAtEnd isEnd (c :: passed) rest

/-- Splits at the first `>` that closes no `<`, given how many are open. -/
def splitBalanced (depth : Nat) : List Char → Option (List Char × List Char)
  | [] => none
  | c :: rest =>
    if c = '>' ∧ depth = 0 then some ([], rest)
    else
      let inner := if c = '<' then depth + 1 else if c = '>' then depth - 1 else depth
      (splitBalanced inner rest).map fun (content, after) => (c :: content, after)

/-- Splits at the first `>` outside quotes, given the quote that is open. -/
def splitTag (quote : Option Char) : List Char → Option (List Char × List Char)
  | [] => none
  | c :: rest =>
    match quote with
    | none =>
      if c = '>' then some ([], rest)
      else
        let opened := if c = '"' ∨ c = '\x27' then some c else none
        (splitTag opened rest).map fun (content, after) => (c :: content, after)
    | some mark =>
      let opened := if c = mark then none else some mark
      (splitTag opened rest).map fun (content, after) => (c :: content, after)

/-- The text up to the first `>`, or all of it, and what follows. -/
def splitAtBracket (text : List Char) : List Char × List Char :=
  (text.takeWhile fun c => c != '>', (text.dropWhile fun c => c != '>').tail)

/-- The text starts with `start`, letter case aside. -/
def startsWithAnyCase (start : String) (text : List Char) : Bool :=
  start.toList.isPrefixOf ((text.take start.length).map Char.toUpper)

/-- A comment ends after two hyphens that are not those of its start. -/
def endsComment : List Char → Bool
  | '-' :: '-' :: _ :: _ :: _ :: _ => true
  | _ => false

/-- A character data section ends after two brackets. -/
def endsCdata : List Char → Bool
  | ']' :: ']' :: _ => true
  | _ => false

/-- A comment, from its exclamation mark on. -/
def scanComment (text : List Char) : Except Fault (Event × List Char) :=
  match splitAtEnd endsComment [] text with
  | some (content, after) =>
    if "!--".toList.isPrefixOf content then
      .ok (.comment (content.drop 3).dropLast.dropLast, after)
    else .error (.unexpectedEnd .comment)
  | none => .error (.unexpectedEnd .comment)

def scanCdata (text : List Char) : Except Fault (Event × List Char) :=
  match splitAtEnd endsCdata [] text with
  | some (content, after) =>
    if startsWithAnyCase "![CDATA[" content then
      .ok (.cdata (content.drop 8).dropLast.dropLast, after)
    else .error (.unexpectedEnd .cdata)
  | none => .error (.unexpectedEnd .cdata)

def scanDoctype (text : List Char) : Except Fault (Event × List Char) :=
  match splitBalanced 0 text with
  | some (content, after) =>
    if startsWithAnyCase "!DOCTYPE" content then
      if (content.drop 8).all isBlank then .error .emptyDoctype else .ok (.ignored, after)
    else .error (.unexpectedEnd .doctype)
  | none => .error (.unexpectedEnd .doctype)

/-- Markup that starts with an exclamation mark. -/
def scanBang (text : List Char) : Except Fault (Event × List Char) :=
  match text.tail with
  | [] => .error (.unexpectedEnd .bang)
  | c :: _ =>
    match c with
    | '[' => scanCdata text
    | '-' => scanComment text
    | 'D' => scanDoctype text
    | 'd' => scanDoctype text
    | c => .error (.unknownBang (Text.leadByte c))

/-- A declaration or processing instruction, from its question mark on. -/
def scanInstruction (text : List Char) : Except Fault (Event × List Char) :=
  let (content, after) := splitAtBracket text
  if 2 < content.length ∧ content.getLast? = some '?' then .ok (.ignored, after)
  else .error (.unexpectedEnd .instruction)

def scanTag (text : List Char) : Except Fault (Event × List Char) :=
  match splitTag none text with
  | none => .error (.unexpectedEnd .element)
  | some (content, after) =>
    if content.getLast? = some '/' then .ok (.empty (.ofContent content.dropLast), after)
    else .ok (.opening (.ofContent content), after)

/-- The markup after `<`, and what follows it. -/
def scanMarkup (text : List Char) : Except Fault (Event × List Char) :=
  match text with
  | '!' :: _ => scanBang text
  | '?' :: _ => scanInstruction text
  | '/' :: rest =>
    let (content, after) := splitAtBracket rest
    .ok (.closing content, after)
  | _ => scanTag text

theorem length_of_splitAtEnd {isEnd : List Char → Bool} {passed text content after : List Char}
    (h : splitAtEnd isEnd passed text = some (content, after)) : after.length < text.length := by
  induction text generalizing passed with
  | nil => simp [splitAtEnd] at h
  | cons c rest ih =>
    unfold splitAtEnd at h
    split at h
    · cases h
      simp
    · have := ih h
      simp only [List.length_cons]
      omega

theorem length_of_splitBalanced {depth : Nat} {text content after : List Char}
    (h : splitBalanced depth text = some (content, after)) : after.length < text.length := by
  induction text generalizing depth content with
  | nil => simp [splitBalanced] at h
  | cons c rest ih =>
    unfold splitBalanced at h
    split at h
    · cases h
      simp
    · obtain ⟨⟨inside, tail⟩, found, same⟩ := Option.map_eq_some_iff.1 h
      cases same
      have := ih found
      simp only [List.length_cons]
      omega

theorem length_of_splitTag {quote : Option Char} {text content after : List Char}
    (h : splitTag quote text = some (content, after)) : after.length < text.length := by
  induction text generalizing quote content with
  | nil => simp [splitTag] at h
  | cons c rest ih =>
    unfold splitTag at h
    split at h
    · split at h
      · cases h
        simp
      · obtain ⟨⟨inside, tail⟩, found, same⟩ := Option.map_eq_some_iff.1 h
        cases same
        have := ih found
        simp only [List.length_cons]
        omega
    · obtain ⟨⟨inside, tail⟩, found, same⟩ := Option.map_eq_some_iff.1 h
      cases same
      have := ih found
      simp only [List.length_cons]
      omega

theorem length_of_splitAtBracket (text : List Char) :
    (splitAtBracket text).2.length ≤ text.length := by
  have := length_dropWhile_le (fun c => c != '>') text
  simp only [splitAtBracket, List.length_tail]
  omega

theorem length_of_scanComment {text after : List Char} {event : Event}
    (h : scanComment text = .ok (event, after)) : after.length < text.length := by
  unfold scanComment at h
  split at h
  · rename_i found
    split at h
    · cases h
      exact length_of_splitAtEnd found
    · cases h
  · cases h

theorem length_of_scanCdata {text after : List Char} {event : Event}
    (h : scanCdata text = .ok (event, after)) : after.length < text.length := by
  unfold scanCdata at h
  split at h
  · rename_i found
    split at h
    · cases h
      exact length_of_splitAtEnd found
    · cases h
  · cases h

theorem length_of_scanDoctype {text after : List Char} {event : Event}
    (h : scanDoctype text = .ok (event, after)) : after.length < text.length := by
  unfold scanDoctype at h
  split at h
  · rename_i found
    split at h
    · split at h
      · cases h
      · cases h
        exact length_of_splitBalanced found
    · cases h
  · cases h

theorem length_of_scanBang {text after : List Char} {event : Event}
    (h : scanBang text = .ok (event, after)) : after.length < text.length := by
  unfold scanBang at h
  split at h
  · cases h
  · split at h
    · exact length_of_scanCdata h
    · exact length_of_scanComment h
    · exact length_of_scanDoctype h
    · exact length_of_scanDoctype h
    · cases h

theorem length_of_scanInstruction {text after : List Char} {event : Event}
    (h : scanInstruction text = .ok (event, after)) : after.length ≤ text.length := by
  unfold scanInstruction at h
  simp only at h
  split at h
  · cases h
    exact length_of_splitAtBracket text
  · cases h

theorem length_of_scanTag {text after : List Char} {event : Event}
    (h : scanTag text = .ok (event, after)) : after.length < text.length := by
  unfold scanTag at h
  split at h
  · cases h
  · rename_i found
    split at h
    · cases h
      exact length_of_splitTag found
    · cases h
      exact length_of_splitTag found

theorem length_of_scanMarkup {text after : List Char} {event : Event}
    (h : scanMarkup text = .ok (event, after)) : after.length ≤ text.length := by
  unfold scanMarkup at h
  split at h
  · exact Nat.le_of_lt (length_of_scanBang h)
  · exact length_of_scanInstruction h
  · rename_i rest
    cases h
    exact Nat.le_succ_of_le (length_of_splitAtBracket rest)
  · exact Nat.le_of_lt (length_of_scanTag h)

/-- The events of a document as far as it could be read, and what was wrong there. -/
structure Reading where
  events : List Event
  fault : Option Fault
  deriving DecidableEq, Repr

def Reading.cons (event : Event) (reading : Reading) : Reading :=
  ⟨event :: reading.events, reading.fault⟩

def Reading.stop (fault : Fault) : Reading :=
  ⟨[], some fault⟩

/-- Not the start of markup. -/
def isPlain (c : Char) : Bool :=
  c != '<'

/-- Cuts a document into events. -/
def scan (document : List Char) : Reading :=
  match document with
  | [] => ⟨[], none⟩
  | c :: rest =>
    if c = '<' then
      if rest.isEmpty then ⟨[], none⟩
      else
        match h : scanMarkup rest with
        | .error fault => .stop fault
        | .ok (event, after) =>
          have := length_of_scanMarkup h
          .cons event (scan after)
    else
      have := length_dropWhile_le isPlain rest
      .cons (.text (c :: rest.takeWhile isPlain)) (scan (rest.dropWhile isPlain))
termination_by document.length

/-- The name in an end tag: blanks at its end do not count, unless there is nothing else. -/
def closingName (content : List Char) : List Char :=
  let trimmed := (content.reverse.dropWhile isBlank).reverse
  if trimmed.isEmpty then content else trimmed

/-- Stops a reading at the first end tag that does not name the innermost open element. -/
def matchNames (opened : List (List Char)) (fault : Option Fault) : List Event → Reading
  | [] => ⟨[], fault⟩
  | .opening tag :: rest => .cons (.opening tag) (matchNames (tag.name :: opened) fault rest)
  | .closing content :: rest =>
    match opened with
    | [] => .stop (.mismatchedEnd "" (String.ofList content))
    | expected :: outer =>
      if closingName content = expected then
        .cons (.closing content) (matchNames outer fault rest)
      else
        .stop (.mismatchedEnd (String.ofList expected) (String.ofList (closingName content)))
  | event :: rest => .cons event (matchNames opened fault rest)

/-- A document without the byte order mark at its start. -/
def withoutMark (document : List Char) : List Char :=
  match document with
  | '\uFEFF' :: rest => rest
  | document => document

def readEvents (document : String) : Reading :=
  let scanned := scan (withoutMark document.toList)
  matchNames [] scanned.fault scanned.events

end SpatialFilter.Markup
