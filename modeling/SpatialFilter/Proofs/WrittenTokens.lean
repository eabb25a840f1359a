import SpatialFilter.Proofs.WrittenTags

/-!
# Written tokens

A document is written as texts, comments and tags.  Each of them is read back as one event, and the
reading goes on behind it.  A text needs markup or the end of the document behind it; the others
have their own end, which nothing inside them looks like: the quotes of a tag hide their contents,
and a comment that holds no two hyphens in a row closes at the first two that do not open it.
-/

namespace SpatialFilter.Markup

open SpatialFilter.Text

/-! ## The end of a tag -/

/-- The text holds no `>` that could end a tag, and closes the quotes that it opens. -/
def Skipped (text : List Char) : Prop :=
  ∀ rest, splitTag none (text ++ rest) =
    (splitTag none rest).map fun (content, after) => (text ++ content, after)

namespace Skipped

theorem append {front back : List Char} (front_skipped : Skipped front)
    (back_skipped : Skipped back) : Skipped (front ++ back) := by
  intro rest
  rw [List.append_assoc, front_skipped, back_skipped, Option.map_map]
  simp [Function.comp_def]

theorem of_plain {text : List Char} (plain : ∀ c ∈ text, c ∉ ['>', '"', '\x27']) :
    Skipped text := by
  induction text with
  | nil =>
    intro rest
    simp
  | cons c others ih =>
    intro rest
    have first := plain c List.mem_cons_self
    simp only [List.mem_cons, List.not_mem_nil, or_false, not_or] at first
    rw [List.cons_append, splitTag]
    simp only [first, or_false, if_false]
    rw [ih fun d member => plain d (List.mem_cons_of_mem _ member), Option.map_map]
    rfl

theorem of_char {c : Char} (plain : c ∉ ['>', '"', '\x27']) : Skipped [c] := by
  apply of_plain
  intro d member
  rwa [List.mem_singleton.1 member]

theorem of_not_reserved {text : List Char} (plain : ∀ c ∈ text, c ∉ reserved) : Skipped text := by
  have listed : ['>', '"', '\x27'] ⊆ reserved := by decide
  exact of_plain fun c member mark => plain c member (listed mark)

theorem of_blanks {text : List Char} (blank : Blanks text) : Skipped text := by
  apply of_plain
  intro c member mark
  have blank_mark := blank c member
  simp only [List.mem_cons, List.not_mem_nil, or_false] at mark
  rcases mark with rfl | rfl | rfl <;> cases blank_mark

/-- Inside quotes nothing but the same quote counts. -/
theorem splitTag_quoted {mark : Char} {value : List Char} (inside : mark ∉ value)
    (rest : List Char) :
    splitTag (some mark) (value ++ mark :: rest) =
      (splitTag none rest).map fun (content, after) => (value ++ mark :: content, after) := by
  induction value with
  | nil => simp [splitTag]
  | cons c others ih =>
    have different : c ≠ mark := fun same => inside (same ▸ List.mem_cons_self)
    rw [List.cons_append, splitTag]
    simp only [different, if_false]
    rw [ih fun member => inside (List.mem_cons_of_mem _ member), Option.map_map]
    rfl

theorem of_quoted {mark : Char} {value : List Char} (quote : mark = '"' ∨ mark = '\x27')
    (inside : mark ∉ value) : Skipped (mark :: (value ++ [mark])) := by
  intro rest
  have bracket : mark ≠ '>' := by
    rcases quote with rfl | rfl <;> decide
  rw [List.cons_append, List.append_assoc, List.singleton_append, splitTag]
  simp only [bracket, quote, if_false, if_true]
  rw [splitTag_quoted inside, Option.map_map]
  simp [Function.comp_def]

theorem of_entry (entry : Entry) : Skipped entry.text := by
  have equals : Skipped ['='] := of_char (by decide)
  have tail : Skipped entry.tail :=
    (of_blanks entry.before_blank).append (equals.append
      ((of_blanks entry.after_blank).append (of_quoted entry.quoted entry.unquoted)))
  exact (of_blanks entry.gap_blank).append
    ((of_not_reserved fun _ member => entry.key.not_reserved member).append tail)

/-- No bracket in a tag ends it before its own. -/
theorem of_tag (tag : WrittenTag) : Skipped tag.text := by
  have entries : Skipped (tag.entries.flatMap Entry.text) := by
    induction tag.entries with
    | nil => exact of_plain nofun
    | cons entry _ ih =>
      rw [List.flatMap_cons]
      exact (of_entry entry).append ih
  exact (of_not_reserved fun _ member => tag.name.not_reserved member).append
    (entries.append (of_blanks tag.trail_blank))

end Skipped

/-! ## Texts -/

/-- A text is one event up to the next markup. -/
theorem scan_text {content rest : List Char} (some_text : content ≠ [])
    (plain : ∀ c ∈ content, isPlain c = true) (stops : StopsAt isPlain rest) :
    scan (content ++ rest) = (scan rest).cons (.text content) := by
  obtain ⟨c, more, rfl⟩ := List.exists_cons_of_ne_nil some_text
  have other : c ≠ '<' := by
    have := plain c List.mem_cons_self
    simpa [isPlain] using this
  have inside : ∀ d ∈ more, isPlain d = true := fun d member =>
    plain d (List.mem_cons_of_mem _ member)
  rw [List.cons_append, scan, if_neg other, takeWhile_run inside stops, dropWhile_run inside stops]

/-! ## Markup -/

/-- Markup behind a bracket is read as one event. -/
theorem scan_markup {text after : List Char} {event : Event} (some_text : text ≠ [])
    (found : scanMarkup text = .ok (event, after)) :
    scan ('<' :: text) = (scan after).cons event := by
  rw [scan, if_pos rfl, if_neg (by simpa using some_text)]
  split
  · rename_i fault failed
    rw [found] at failed
    cases failed
  · rename_i other rest read
    rw [found] at read
    cases read
    rfl

/-! ## Tags -/

theorem scanMarkup_of_tag {first : Char} {text : List Char} (plain : first ∉ reserved) :
    scanMarkup (first :: text) = scanTag (first :: text) := by
  unfold scanMarkup
  split
  case h_4 => rfl
  -- what other markup starts with is reserved
  all_goals
    rename_i same
    cases same
    exact absurd (by decide) plain

theorem splitTag_bracket (rest : List Char) : splitTag none ('>' :: rest) = some ([], rest) := by
  simp [splitTag]

theorem getLast?_append_ne {front back : List Char} {c : Char} (front_ne : front.getLast? ≠ some c)
    (back_ne : back.getLast? ≠ some c) : (front ++ back).getLast? ≠ some c := by
  rw [List.getLast?_append]
  cases last : back.getLast? with
  | none => exact front_ne
  | some d =>
    rw [last] at back_ne
    exact back_ne

theorem Entry.getLast?_text (entry : Entry) : entry.text.getLast? ≠ some '/' := by
  have last : entry.text.getLast? = some entry.quote := by
    simp [Entry.text, Entry.tail, List.getLast?_append, List.getLast?_cons]
  rw [last]
  rcases entry.quoted with quote | quote <;> simp [quote]

namespace WrittenTag

/-- A tag between its brackets does not end in a slash. -/
theorem getLast?_text (tag : WrittenTag) : tag.text.getLast? ≠ some '/' := by
  have name : tag.name.text.getLast? ≠ some '/' := fun last =>
    tag.name.not_reserved (List.mem_of_getLast? last) (by decide)
  have entries : (tag.entries.flatMap Entry.text).getLast? ≠ some '/' := by
    induction tag.entries with
    | nil => nofun
    | cons entry _ ih =>
      rw [List.flatMap_cons]
      exact getLast?_append_ne (Entry.getLast?_text entry) ih
  have trail : tag.trail.getLast? ≠ some '/' := fun last => by
    cases tag.trail_blank '/' (List.mem_of_getLast? last)
  exact getLast?_append_ne name (getLast?_append_ne entries trail)

theorem scanMarkup_text (tag : WrittenTag) (rest : List Char) :
    scanMarkup (tag.text ++ rest) = scanTag (tag.text ++ rest) := by
  obtain ⟨first, more, text_eq⟩ := List.exists_cons_of_ne_nil tag.name.text_ne_nil
  rw [text, text_eq, List.cons_append, List.cons_append]
  exact scanMarkup_of_tag (tag.name.not_reserved (text_eq ▸ List.mem_cons_self))

theorem scan_opening (tag : WrittenTag) (rest : List Char) :
    scan ('<' :: (tag.text ++ '>' :: rest)) =
      (scan rest).cons (.opening (.ofContent tag.text)) := by
  apply scan_markup (by simp)
  rw [tag.scanMarkup_text, scanTag, Skipped.of_tag tag, splitTag_bracket]
  simp only [Option.map_some, List.append_nil, if_neg tag.getLast?_text]

theorem scan_empty (tag : WrittenTag) (rest : List Char) :
    scan ('<' :: (tag.text ++ '/' :: '>' :: rest)) =
      (scan rest).cons (.empty (.ofContent tag.text)) := by
  have slash : Skipped ['/'] := Skipped.of_char (by decide)
  apply scan_markup (by simp)
  rw [tag.scanMarkup_text, scanTag, Skipped.of_tag tag, ← List.singleton_append, slash,
    splitTag_bracket]
  simp

end WrittenTag

/-- An end tag is read with the blanks at its end. -/
theorem scan_closing (name : QualifiedName) {trail : List Char} (blank : Blanks trail)
    (rest : List Char) :
    scan ('<' :: '/' :: (name.text ++ (trail ++ '>' :: rest))) =
      (scan rest).cons (.closing (name.text ++ trail)) := by
  have inside : ∀ c ∈ name.text ++ trail, (c != '>') = true := by
    intro c member
    rw [bne_iff_ne]
    rintro rfl
    rcases List.mem_append.1 member with named | trailing
    · exact name.not_reserved named (by decide)
    · cases blank '>' trailing
  have stops : StopsAt (fun c => c != '>') ('>' :: rest) := stopsAt_cons rest rfl
  apply scan_markup (by simp)
  rw [← List.append_assoc]
  simp only [scanMarkup, splitAtBracket, takeWhile_run inside stops, dropWhile_run inside stops,
    List.tail_cons]

/-- Blanks behind the name of an end tag do not count. -/
theorem closingName_text (name : QualifiedName) {trail : List Char} (blank : Blanks trail) :
    closingName (name.text ++ trail) = name.text := by
  have blank_reverse : ∀ c ∈ trail.reverse, isBlank c = true := fun c member =>
    blank c (List.mem_reverse.mp member)
  have stops : StopsAt isBlank name.text.reverse := stopsAt_of_outside fun c member =>
    not_isBlank_of_not_reserved (name.not_reserved (List.mem_reverse.mp member))
  have trimmed : ((name.text ++ trail).reverse.dropWhile isBlank).reverse = name.text := by
    rw [List.reverse_append, dropWhile_run blank_reverse stops, List.reverse_reverse]
  unfold closingName
  simp only [trimmed, List.isEmpty_iff, name.text_ne_nil, if_false]

/-! ## Comments -/

theorem endsComment_iff {passed : List Char} :
    endsComment passed = true ↔ ['-', '-'] <+: passed ∧ 5 ≤ passed.length := by
  constructor
  · intro ends
    unfold endsComment at ends
    split at ends
    · exact ⟨⟨_, rfl⟩, by simp⟩
    · cases ends
  · rintro ⟨⟨more, rfl⟩, long⟩
    match more, long with
    | _ :: _ :: _ :: _, _ => rfl

/-- If a comment can end, two hyphens stand in what was passed of its contents: those of its start
are too few. -/
theorem infix_of_endsComment {seen : List Char}
    (ends : endsComment (seen.reverse ++ ['-', '-', '!']) = true) : ['-', '-'] <:+: seen := by
  obtain ⟨hyphens, long⟩ := endsComment_iff.1 ends
  have two : ['-', '-'].length ≤ seen.reverse.length := by
    simp only [List.length_append, List.length_cons, List.length_nil] at long ⊢
    omega
  have front : ['-', '-'] <+: seen.reverse :=
    List.prefix_of_prefix_length_le hyphens (List.prefix_append _ _) two
  exact List.reverse_infix.1 front.isInfix

/-- The contents of a comment are passed, and with them the hyphens that end it. -/
theorem splitAtEnd_comment {seen content : List Char}
    (noHyphens : ¬ ['-', '-'] <:+: seen ++ content) (rest : List Char) :
    splitAtEnd endsComment (seen.reverse ++ ['-', '-', '!'])
        (content ++ '-' :: '-' :: '>' :: rest) =
      some ("!--".toList ++ (seen ++ content) ++ ['-', '-'], rest) := by
  induction content generalizing seen with
  | nil =>
    have closes : endsComment ('-' :: '-' :: (seen.reverse ++ ['-', '-', '!'])) = true :=
      endsComment_iff.2 ⟨⟨_, rfl⟩, by simp⟩
    simp only [List.nil_append, splitAtEnd]
    simp [closes]
  | cons c more ih =>
    have stays : ¬ (c = '>' ∧ endsComment (seen.reverse ++ ['-', '-', '!']) = true) := by
      rintro ⟨-, ends⟩
      exact noHyphens ((infix_of_endsComment ends).trans (List.prefix_append _ _).isInfix)
    have next : (seen ++ [c]).reverse = c :: seen.reverse := by simp
    have joined : (seen ++ [c]) ++ more = seen ++ c :: more := by simp
    have read := @ih (seen ++ [c])
    rw [next, joined] at read
    rw [List.cons_append, splitAtEnd, if_neg stays]
    exact read noHyphens

/-- A comment without two hyphens in a row is one event. -/
theorem scan_comment {content : List Char} (noHyphens : ¬ ['-', '-'] <:+: content)
    (rest : List Char) :
    scan ("<!--".toList ++ (content ++ ("-->".toList ++ rest))) =
      (scan rest).cons (.comment content) := by
  have split := @splitAtEnd_comment [] content noHyphens rest
  have found : scanComment ('!' :: '-' :: '-' :: (content ++ '-' :: '-' :: '>' :: rest)) =
      .ok (.comment content, rest) := by
    rw [List.nil_append] at split
    have passed : splitAtEnd endsComment []
        ('!' :: '-' :: '-' :: (content ++ '-' :: '-' :: '>' :: rest)) =
        some ("!--".toList ++ content ++ ['-', '-'], rest) := split
    unfold scanComment
    rw [passed]
    simp
  exact scan_markup (by simp) found

end SpatialFilter.Markup
