import Mathlib.Data.List.TakeWhile
import SpatialFilter.Text.Blank

/-!
# Words of a text

Cutting a text at a separator cuts what stands before it and what stands behind it on their own
(`pieces_append`), and everything else about words and pieces follows from that.  The pieces
between separators of one kind are what the text is joined of (`pieces_eq_iff`).  The words of a
text that shows some words between blanks are those words (`words_of_shows`), and every text shows
its words (`shows_words`).  A run of characters is taken or dropped up to where it stops
(`takeWhile_run`, `dropWhile_run`), which tells runs between marks apart (`marked_append_inj`).  One
text occurs in another when it is a stretch of it (`occursIn_iff_isInfix`).
-/

namespace SpatialFilter.Text

/-! ## Runs of characters -/

/-- A run of the characters that satisfy `p` stops in front of the text. -/
def StopsAt (p : Char → Bool) (text : List Char) : Prop :=
  ∀ c ∈ text.head?, p c = false

theorem stopsAt_nil {p : Char → Bool} : StopsAt p [] := by
  intro first first_eq
  cases first_eq

theorem stopsAt_cons {p : Char → Bool} {c : Char} (rest : List Char) (stops : p c = false) :
    StopsAt p (c :: rest) := by
  intro first first_eq
  cases first_eq
  exact stops

theorem stopsAt_of_outside {p : Char → Bool} {text : List Char}
    (outside : ∀ c ∈ text, p c = false) : StopsAt p text := fun c first =>
  outside c (List.mem_of_mem_head? first)

theorem stopsAt_append {p : Char → Bool} {text : List Char} (some_text : text ≠ [])
    (outside : ∀ c ∈ text, p c = false) (rest : List Char) : StopsAt p (text ++ rest) := by
  obtain ⟨c, more, rfl⟩ := List.exists_cons_of_ne_nil some_text
  exact stopsAt_cons _ (outside c List.mem_cons_self)

theorem StopsAt.append {p : Char → Bool} {text : List Char} (stops : StopsAt p text)
    (some_text : text ≠ []) (rest : List Char) : StopsAt p (text ++ rest) := by
  obtain ⟨c, more, rfl⟩ := List.exists_cons_of_ne_nil some_text
  exact stopsAt_cons _ (stops c rfl)

/-- A run is taken up to where it stops. -/
theorem takeWhile_run {p : Char → Bool} {run rest : List Char} (inside : ∀ c ∈ run, p c = true)
    (stops : StopsAt p rest) : (run ++ rest).takeWhile p = run := by
  rw [List.takeWhile_append_of_pos inside]
  cases rest with
  | nil => simp
  | cons c tail => rw [List.takeWhile_cons_of_neg (by simp [stops c rfl]), List.append_nil]

theorem dropWhile_run {p : Char → Bool} {run rest : List Char} (inside : ∀ c ∈ run, p c = true)
    (stops : StopsAt p rest) : (run ++ rest).dropWhile p = rest := by
  rw [List.dropWhile_append_of_pos inside]
  cases rest with
  | nil => rfl
  | cons c tail => rw [List.dropWhile_cons_of_neg (by simp [stops c rfl])]

/-- A run is told from what it stops at. -/
theorem run_append_inj {p : Char → Bool} {run other rest behind : List Char}
    (run_inside : ∀ c ∈ run, p c = true) (other_inside : ∀ c ∈ other, p c = true)
    (rest_stops : StopsAt p rest) (behind_stops : StopsAt p behind) :
    run ++ rest = other ++ behind ↔ run = other ∧ rest = behind := by
  constructor
  · intro same
    have taken := congrArg (List.takeWhile p) same
    have dropped := congrArg (List.dropWhile p) same
    rw [takeWhile_run run_inside rest_stops, takeWhile_run other_inside behind_stops] at taken
    rw [dropWhile_run run_inside rest_stops, dropWhile_run other_inside behind_stops] at dropped
    exact ⟨taken, dropped⟩
  · rintro ⟨rfl, rfl⟩
    rfl

/-- Runs, each with the mark in its place behind it. -/
def marked (runs marks : List (List Char)) : List Char :=
  (List.zipWith (· ++ ·) runs marks).flatten

theorem marked_cons_append (run mark : List Char) (runs marks : List (List Char))
    (rest : List Char) :
    marked (run :: runs) (mark :: marks) ++ rest =
      run ++ (mark ++ (marked runs marks ++ rest)) := by
  simp [marked]

/-- Runs between marks that they stop at are told apart. -/
theorem marked_append_inj {p : Char → Bool} {marks runs others : List (List Char)}
    (marks_stop : ∀ mark ∈ marks, mark ≠ [] ∧ StopsAt p mark)
    (runs_inside : ∀ run ∈ runs, ∀ c ∈ run, p c = true)
    (others_inside : ∀ run ∈ others, ∀ c ∈ run, p c = true)
    (runs_count : runs.length = marks.length) (others_count : others.length = marks.length)
    {rest behind : List Char} :
    marked runs marks ++ rest = marked others marks ++ behind ↔ runs = others ∧ rest = behind := by
  induction marks generalizing runs others with
  | nil =>
    obtain rfl := List.eq_nil_of_length_eq_zero runs_count
    obtain rfl := List.eq_nil_of_length_eq_zero others_count
    simp [marked]
  | cons mark marks ih =>
    obtain ⟨run, runs, rfl⟩ := List.exists_cons_of_length_eq_add_one runs_count
    obtain ⟨other, others, rfl⟩ := List.exists_cons_of_length_eq_add_one others_count
    rw [List.forall_mem_cons] at marks_stop runs_inside others_inside
    rw [List.length_cons, List.length_cons, Nat.add_right_cancel_iff] at runs_count others_count
    have stops : ∀ rest, StopsAt p (mark ++ rest) := marks_stop.1.2.append marks_stop.1.1
    rw [marked_cons_append, marked_cons_append,
      run_append_inj runs_inside.1 others_inside.1 (stops _) (stops _), List.append_right_inj,
      ih marks_stop.2 runs_inside.2 others_inside.2 runs_count others_count, List.cons.injEq,
      and_assoc]

/-! ## Occurrences -/

/-- To occur in a text is to be an infix of it. -/
theorem occursIn_iff_isInfix {needle text : List Char} :
    occursIn needle text = true ↔ needle <:+: text := by
  induction text with
  | nil => simp [occursIn]
  | cons c rest ih =>
    rw [occursIn, Bool.or_eq_true, List.isPrefixOf_iff_prefix, ih, List.infix_cons_iff]

theorem occursIn_append_of_occursIn {needle text : List Char} (occurs : occursIn needle text = true)
    (rest : List Char) : occursIn needle (text ++ rest) = true := by
  rw [occursIn_iff_isInfix] at occurs ⊢
  exact occurs.trans (List.prefix_append text rest).isInfix

/-! ## Pieces -/

/-- A separator ends one piece and starts the next. -/
theorem pieces_append {isSeparator : Char → Bool} {c : Char} (separates : isSeparator c = true)
    (before after : List Char) :
    pieces isSeparator (before ++ c :: after) =
      pieces isSeparator before ++ pieces isSeparator after := by
  induction before with
  | nil => simp [pieces, separates]
  | cons first rest ih =>
    simp only [List.cons_append, pieces, ih]
    split
    · rfl
    · cases inside : pieces isSeparator rest with
      | nil => exact absurd inside (pieces_ne_nil isSeparator rest)
      | cons piece others => rfl

/-- A text without separators is one piece. -/
theorem pieces_of_free {isSeparator : Char → Bool} {text : List Char}
    (free : ∀ c ∈ text, isSeparator c = false) : pieces isSeparator text = [text] := by
  induction text with
  | nil => rfl
  | cons first rest ih =>
    have first_free := free first List.mem_cons_self
    have rest_free := ih fun c member => free c (List.mem_cons_of_mem _ member)
    simp [pieces, first_free, rest_free]

theorem pieces_eq_splitOnP (isSeparator : Char → Bool) (text : List Char) :
    pieces isSeparator text = text.splitOnP isSeparator := by
  induction text with
  | nil => simp [pieces]
  | cons first rest ih =>
    rw [pieces, List.splitOnP_cons_eq_if_modifyHead, ih]
    split
    · rfl
    · cases inside : rest.splitOnP isSeparator with
      | nil => exact absurd inside (List.splitOnP_ne_nil isSeparator rest)
      | cons piece others => rfl

/-- No separator stands in a piece. -/
theorem free_of_mem_pieces {isSeparator : Char → Bool} {text piece : List Char}
    (member : piece ∈ pieces isSeparator text) : ∀ c ∈ piece, isSeparator c = false := by
  induction text generalizing piece with
  | nil =>
    obtain rfl : piece = [] := by simpa [pieces] using member
    intro c inside
    cases inside
  | cons first rest ih =>
    rw [pieces] at member
    split at member
    · rcases List.mem_cons.mp member with rfl | later
      · intro c inside
        cases inside
      · exact ih later
    next plain =>
      split at member
      next inside => exact absurd inside (pieces_ne_nil isSeparator rest)
      next begun others inside =>
        rw [inside] at ih
        rcases List.mem_cons.mp member with rfl | later
        · intro c here
          rcases List.mem_cons.mp here with rfl | behind
          · simpa using plain
          · exact ih List.mem_cons_self c behind
        · exact ih (List.mem_cons_of_mem _ later)

/-- The pieces between separators of one kind are the parts without a separator that make the text
when they are joined with it. -/
theorem pieces_eq_iff {separator : Char} {text : List Char} {parts : List (List Char)} :
    pieces (fun c => c == separator) text = parts ↔
      parts ≠ [] ∧ (∀ part ∈ parts, separator ∉ part) ∧ [separator].intercalate parts = text := by
  constructor
  · rintro rfl
    refine ⟨pieces_ne_nil _ text, ?_, ?_⟩
    · intro part member inside
      simpa using free_of_mem_pieces member separator inside
    · rw [pieces_eq_splitOnP, ← List.splitOn_eq_splitOnP, List.intercalate_splitOn]
  · rintro ⟨some_part, free, rfl⟩
    rw [pieces_eq_splitOnP, ← List.splitOn_eq_splitOnP,
      List.splitOn_intercalate separator free some_part]

/-! ## Words -/

def AllBlank (gap : List Char) : Prop :=
  ∀ c ∈ gap, isBlank c = true

def NoBlank (word : List Char) : Prop :=
  ∀ c ∈ word, isBlank c = false

theorem noBlank_of_all {word : List Char} (free : (word.all fun c => !isBlank c) = true) :
    NoBlank word := by
  intro c member
  have plain := List.all_eq_true.mp free c member
  rwa [Bool.not_eq_true'] at plain

/-- A blank keeps words apart. -/
theorem words_append {c : Char} (blank : isBlank c = true) (before after : List Char) :
    words (before ++ c :: after) = words before ++ words after := by
  unfold words
  rw [pieces_append blank, List.filter_append]

theorem words_of_allBlank {gap : List Char} (blank : AllBlank gap) : words gap = [] := by
  induction gap with
  | nil => rfl
  | cons c rest ih =>
    have cut := words_append (blank c List.mem_cons_self) [] rest
    rw [List.nil_append] at cut
    rw [cut, ih fun d member => blank d (List.mem_cons_of_mem _ member)]
    rfl

/-- A text without blanks is one word. -/
theorem words_of_noBlank {word : List Char} (some_text : word ≠ []) (free : NoBlank word) :
    words word = [word] := by
  unfold words
  rw [pieces_of_free free]
  simp [some_text]

/-- Blanks in front of a text belong to no word. -/
theorem words_allBlank_append {gap : List Char} (blank : AllBlank gap) (text : List Char) :
    words (gap ++ text) = words text := by
  induction gap with
  | nil => rfl
  | cons c rest ih =>
    have cut := words_append (blank c List.mem_cons_self) [] (rest ++ text)
    rw [List.nil_append] at cut
    rw [List.cons_append, cut, ih fun d member => blank d (List.mem_cons_of_mem _ member)]
    rfl

/-- The text shows these words in order, with blanks between them and any blanks around them. -/
inductive Shows : List (List Char) → List Char → Prop
  | none {gap : List Char} (blank : AllBlank gap) : Shows [] gap
  | last {lead word : List Char} (blank : AllBlank lead) : Shows [word] (lead ++ word)
  | next {lead word : List Char} {c : Char} {words : List (List Char)} {rest : List Char}
      (blank : AllBlank lead) (apart : isBlank c = true) (others : Shows words rest) :
      Shows (word :: words) (lead ++ word ++ c :: rest)

theorem shows_word (word : List Char) : Shows [word] word :=
  @Shows.last [] word nofun

theorem shows_word_cons (word : List Char) {c : Char} {words : List (List Char)} {rest : List Char}
    (apart : isBlank c = true) (others : Shows words rest) :
    Shows (word :: words) (word ++ c :: rest) :=
  @Shows.next [] word c words rest nofun apart others

/-- The words that a text shows are its words. -/
theorem words_of_shows {shown : List (List Char)} {text : List Char} (shows : Shows shown text)
    (each : ∀ word ∈ shown, word ≠ [] ∧ NoBlank word) : words text = shown := by
  induction shows with
  | none blank => exact words_of_allBlank blank
  | last blank =>
    obtain ⟨some_text, free⟩ := each _ List.mem_cons_self
    rw [words_allBlank_append blank, words_of_noBlank some_text free]
  | next blank apart others ih =>
    obtain ⟨some_text, free⟩ := each _ List.mem_cons_self
    rw [words_append apart, words_allBlank_append blank, words_of_noBlank some_text free,
      ih fun word member => each word (List.mem_cons_of_mem _ member)]
    rfl

/-- A text is taken word by word: without a blank it is one word, and otherwise a text follows the
first blank. -/
theorem induction_on_blanks {motive : List Char → Prop}
    (free : ∀ word, NoBlank word → motive word)
    (next : ∀ word c rest, NoBlank word → isBlank c = true → motive rest →
      motive (word ++ c :: rest))
    (text : List Char) : motive text := by
  -- The word at hand grows in front of what is left of the text.
  have grown : ∀ left word, NoBlank word → motive (word ++ left) := by
    intro left
    induction left with
    | nil =>
      intro word plain
      rw [List.append_nil]
      exact free word plain
    | cons c rest ih =>
      intro word plain
      cases blank : isBlank c with
      | true => exact next word c rest plain blank (ih [] nofun)
      | false =>
        rw [List.append_cons]
        apply ih
        intro d member
        rcases List.mem_append.mp member with inside | last
        · exact plain d inside
        · rwa [List.mem_singleton.mp last]
  exact grown text [] nofun

theorem mem_words {text word : List Char} (member : word ∈ words text) :
    word ≠ [] ∧ NoBlank word := by
  obtain ⟨piece, some_text⟩ := List.mem_filter.mp member
  exact ⟨by simpa using some_text, free_of_mem_pieces piece⟩

theorem Shows.blank_cons {c : Char} {shown : List (List Char)} {text : List Char}
    (blank : isBlank c = true) (shows : Shows shown text) : Shows shown (c :: text) := by
  have longer : ∀ {gap : List Char}, AllBlank gap → AllBlank (c :: gap) := by
    intro gap gap_blank
    exact List.forall_mem_cons.mpr ⟨blank, gap_blank⟩
  cases shows with
  | none gap => exact .none (longer gap)
  | last lead => exact .last (longer lead)
  | next lead apart others => exact .next (longer lead) apart others

/-- A text shows its words. -/
theorem shows_words (text : List Char) : Shows (words text) text := by
  induction text using induction_on_blanks with
  | free word plain =>
    by_cases empty : word = []
    · subst empty
      exact .none nofun
    · rw [words_of_noBlank empty plain]
      exact shows_word word
  | next word c rest plain blank ih =>
    rw [words_append blank]
    by_cases empty : word = []
    · subst empty
      exact ih.blank_cons blank
    · rw [words_of_noBlank empty plain]
      exact shows_word_cons word blank ih

/-- Spaces between words separate them. -/
theorem words_intercalate {shown : List (List Char)}
    (each : ∀ word ∈ shown, word ≠ [] ∧ NoBlank word) :
    words ([' '].intercalate shown) = shown := by
  refine words_of_shows ?_ each
  clear each
  induction shown with
  | nil => exact .none nofun
  | cons word others ih =>
    cases others with
    | nil => simpa using shows_word word
    | cons second rest =>
      rw [List.intercalate_cons_cons, List.append_assoc, List.singleton_append]
      exact shows_word_cons word (by decide) ih

/-! ## Trimming -/

/-- Blanks at the end do not matter. -/
theorem trimEnd_append_of_allBlank {gap : List Char} (blank : AllBlank gap) (text : List Char) :
    trimEnd (text ++ gap) = trimEnd text := by
  have dropped : gap.reverse.dropWhile isBlank = [] := by
    rw [List.dropWhile_eq_nil_iff]
    intro c member
    exact blank c (List.mem_reverse.mp member)
  simp [trimEnd, List.dropWhile_append, dropped]

/-- Where there is more than blanks at the end, what stands in front of it is kept. -/
theorem trimEnd_append_of_not_allBlank {rest : List Char} (shown : ¬ AllBlank rest)
    (text : List Char) : trimEnd (text ++ rest) = text ++ trimEnd rest := by
  have kept : rest.reverse.dropWhile isBlank ≠ [] := by
    rw [ne_eq, List.dropWhile_eq_nil_iff]
    intro blank
    exact shown fun c member => blank c (List.mem_reverse.mpr member)
  simp [trimEnd, List.dropWhile_append, kept]

theorem trimEnd_concat {c : Char} (shown : isBlank c = false) (text : List Char) :
    trimEnd (text ++ [c]) = text ++ [c] := by
  simp [trimEnd, shown]

/-- A text is blanks, what is left of it when it is trimmed, and blanks. -/
theorem exists_around_trim (text : List Char) :
    ∃ before after, AllBlank before ∧ AllBlank after ∧ text = before ++ trim text ++ after := by
  let shown := text.dropWhile isBlank
  refine ⟨text.takeWhile isBlank, (shown.reverse.takeWhile isBlank).reverse, ?_, ?_, ?_⟩
  · intro c member
    exact List.all_eq_true.mp List.all_takeWhile c member
  · intro c member
    exact List.all_eq_true.mp List.all_takeWhile c (List.mem_reverse.mp member)
  · have back : trimEnd shown ++ (shown.reverse.takeWhile isBlank).reverse = shown := by
      rw [trimEnd, ← List.reverse_append, List.takeWhile_append_dropWhile, List.reverse_reverse]
    rw [trim, List.append_assoc, back, List.takeWhile_append_dropWhile]

/-- Blanks around a word are cut off and the word is kept. -/
theorem trim_around {lead word trail : List Char} (before : AllBlank lead) (after : AllBlank trail)
    (some_text : word ≠ []) (free : NoBlank word) : trim (lead ++ word ++ trail) = word := by
  -- The blanks stop at the first character of the word, from either end.
  have front_stops : StopsAt isBlank (word ++ trail) := stopsAt_append some_text free trail
  have back_stops : StopsAt isBlank word.reverse :=
    stopsAt_of_outside fun c member => free c (List.mem_reverse.mp member)
  have front : (lead ++ word ++ trail).dropWhile isBlank = word ++ trail := by
    rw [List.append_assoc, dropWhile_run before front_stops]
  have back : (word ++ trail).reverse.dropWhile isBlank = word.reverse := by
    rw [List.reverse_append, dropWhile_run (by simpa [AllBlank] using after) back_stops]
  unfold trim trimEnd
  rw [front, back, List.reverse_reverse]

/-- A text that shows one word is trimmed to it. -/
theorem trim_of_shows {word text : List Char} (shows : Shows [word] text) (some_text : word ≠ [])
    (free : NoBlank word) : trim text = word := by
  cases shows with
  | last blank =>
    have no_trail : AllBlank [] := nofun
    have around := trim_around blank no_trail some_text free
    rwa [List.append_nil] at around
  | next blank apart others =>
    rename_i lead c rest
    cases others with
    | none gap =>
      refine trim_around blank ?_ some_text free
      intro d member
      rcases List.mem_cons.mp member with rfl | inside
      · exact apart
      · exact gap d inside

theorem trim_of_allBlank {gap : List Char} (blank : AllBlank gap) : trim gap = [] := by
  have dropped : gap.dropWhile isBlank = [] := List.dropWhile_eq_nil_iff.mpr blank
  rw [trim, dropped]
  rfl

/-- A text of fewer than two words is trimmed to what it has of them. -/
theorem trim_eq_flatten {text : List Char} (few : (words text).length < 2) :
    trim text = (words text).flatten := by
  have shows := shows_words text
  cases shown : words text with
  | nil =>
    rw [shown] at shows
    cases shows with
    | none blank => exact trim_of_allBlank blank
  | cons word others =>
    have alone : others = [] := by
      rw [shown, List.length_cons] at few
      exact List.eq_nil_of_length_eq_zero (by omega)
    subst alone
    obtain ⟨some_text, free⟩ := mem_words (shown ▸ List.mem_cons_self)
    rw [shown] at shows
    rw [trim_of_shows shows some_text free, List.flatten_singleton]

end SpatialFilter.Text
