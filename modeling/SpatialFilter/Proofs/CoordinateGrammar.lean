import SpatialFilter.Proofs.EnvelopeEncodings

/-!
# The grammar of one text of coordinates

One text may list the corners of a box.  The reader collapses its blanks, exchanges the separators
where a comma comes first, cuts the text at commas and cuts each piece into words.  Read directly,
the corners are either the words of the text, cut at their commas, or the pieces between its commas,
cut into words (`HasCorners`), and all these steps come to that (`hasCorners_normalized`).

Where a comma comes first, the exchange turns the words into the pieces.  Everywhere else collapsing
is all that happens, and it changes no corner, since the words of a text decide how it is cut
(`cornersBetweenCommas_eq_foldr`).
-/

namespace SpatialFilter

open SpatialFilter.Number
open SpatialFilter.Markup
open SpatialFilter.Text

/-! ## Corners -/

/-- The text without blanks at its ends, and with one space for each run of blanks in it. -/
def singleSpaced (text : List Char) : List Char :=
  [' '].intercalate (words text)

/-- The text, its runs of blanks aside, starts with characters of numerals and then a comma. -/
def NumberBeforeComma (text : List Char) : Prop :=
  ∃ run rest, run ≠ [] ∧ (∀ c ∈ run, isNumeralChar c = true) ∧
    singleSpaced text = run ++ ',' :: rest

/-- Each word is cut at its commas, and empty pieces do not count. -/
def cornersInWords (text : List Char) : List (List (List Char)) :=
  (words text).map fun word =>
    (pieces (fun c => c == ',') word).filter fun piece => !piece.isEmpty

/-- Each piece between commas is cut into words. -/
def cornersBetweenCommas (text : List Char) : List (List (List Char)) :=
  (pieces (fun c => c == ',') text).map words

/-- The components of the corners in a text: what comes first, a comma behind a number or anything
else, tells which separator is inside the corners. -/
inductive HasCorners (text : List Char) : List (List (List Char)) → Prop
  | commasInside (leads : NumberBeforeComma text) : HasCorners text (cornersInWords text)
  | commaBetween (other : ¬ NumberBeforeComma text) : HasCorners text (cornersBetweenCommas text)

/-- A text has its corners in one way only. -/
theorem HasCorners.unique {text : List Char} {corners others : List (List (List Char))}
    (has : HasCorners text corners) (has_others : HasCorners text others) : corners = others := by
  cases has with
  | commasInside leads =>
    cases has_others with
    | commasInside => rfl
    | commaBetween other => exact absurd leads other
  | commaBetween other =>
    cases has_others with
    | commasInside leads => exact absurd leads other
    | commaBetween => rfl

theorem commaLeads_iff {text : List Char} :
    commaLeads (singleSpaced text) = true ↔ NumberBeforeComma text :=
  commaLeads_eq_true_iff

/-! ## Commas inside the corners -/

section CommasInside

variable {word : List Char}

/-- In a word, blanks after the exchange are commas before it. -/
theorem pieces_map_swapSeparator (free : NoBlank word) :
    pieces Text.isBlank (word.map swapSeparator) = pieces (fun c => c == ',') word := by
  induction word with
  | nil => rfl
  | cons c rest ih =>
    obtain ⟨plain, rest_free⟩ := List.forall_mem_cons.mp free
    rw [List.map_cons, pieces, pieces, ih rest_free]
    by_cases comma : c = ','
    · subst comma
      rfl
    · have kept : swapSeparator c = c := by
        refine swapSeparator_of_ne ?_ comma
        rintro rfl
        cases plain
      simp [kept, plain, comma]

theorem words_map_swapSeparator (free : NoBlank word) :
    words (word.map swapSeparator) =
      (pieces (fun c => c == ',') word).filter fun piece => !piece.isEmpty := by
  rw [words, pieces_map_swapSeparator free]

theorem comma_not_mem_map_swapSeparator (free : NoBlank word) :
    ',' ∉ word.map swapSeparator := by
  intro member
  obtain ⟨c, inside, swapped⟩ := List.mem_map.mp member
  have plain := free c inside
  unfold swapSeparator at swapped
  split at swapped
  next space =>
    subst space
    cases plain
  · split at swapped
    · cases swapped
    next other => exact other swapped

theorem map_swapSeparator_intercalate (parts : List (List Char)) :
    ([' '].intercalate parts).map swapSeparator =
      [','].intercalate (parts.map (List.map swapSeparator)) := by
  induction parts with
  | nil => rfl
  | cons part others ih =>
    cases others with
    | nil => simp
    | cons second rest =>
      rw [List.map_cons, List.map_cons, List.intercalate_cons_cons, List.intercalate_cons_cons,
        List.map_append, List.map_append, ih]
      rfl

/-- After the exchange, the pieces between commas are the words, and their words are the pieces. -/
theorem cornersBetweenCommas_swapped {text : List Char} (leads : NumberBeforeComma text) :
    cornersBetweenCommas ((singleSpaced text).map swapSeparator) = cornersInWords text := by
  have some_word : words text ≠ [] := by
    obtain ⟨run, rest, -, -, begins⟩ := leads
    intro none
    rw [singleSpaced, none] at begins
    simp at begins
  have cut : pieces (fun c => c == ',') ((singleSpaced text).map swapSeparator) =
      (words text).map (List.map swapSeparator) := by
    rw [pieces_eq_iff, singleSpaced, map_swapSeparator_intercalate]
    refine ⟨by simpa using some_word, ?_, rfl⟩
    intro part member
    obtain ⟨word, inside, rfl⟩ := List.mem_map.mp member
    exact comma_not_mem_map_swapSeparator (mem_words inside).2
  rw [cornersBetweenCommas, cut, List.map_map]
  apply List.map_congr_left
  intro word inside
  exact words_map_swapSeparator (mem_words inside).2

end CommasInside

/-! ## Commas between the corners -/

section CommaBetween

/-- Two lists of lists one after the other, where the last list of the one goes on with the first
of the other. -/
def glued {α : Type} : List (List α) → List (List α) → List (List α)
  | [], others => others
  | [last], [] => [last]
  | [last], first :: others => (last ++ first) :: others
  | list :: next :: rest, others => list :: glued (next :: rest) others

theorem nil_glued {α : Type} {lists : List (List α)} (some_list : lists ≠ []) :
    glued [[]] lists = lists := by
  obtain ⟨first, others, rfl⟩ := List.exists_cons_of_ne_nil some_list
  rfl

theorem glued_nil {α : Type} {lists : List (List α)} (some_list : lists ≠ []) :
    glued lists [[]] = lists := by
  induction lists with
  | nil => exact absurd rfl some_list
  | cons list others ih =>
    cases others with
    | nil => simp [glued]
    | cons next rest => rw [glued, ih (by simp)]

theorem pieces_append_text (isSeparator : Char → Bool) (text more : List Char) :
    pieces isSeparator (text ++ more) =
      glued (pieces isSeparator text) (pieces isSeparator more) := by
  induction text with
  | nil => exact (nil_glued (pieces_ne_nil _ more)).symm
  | cons c rest ih =>
    obtain ⟨piece, others, cut⟩ := List.exists_cons_of_ne_nil (pieces_ne_nil isSeparator rest)
    obtain ⟨first, behind, cut_more⟩ := List.exists_cons_of_ne_nil (pieces_ne_nil isSeparator more)
    rw [List.cons_append, pieces, pieces, ih, cut, cut_more]
    cases others with
    | nil => split <;> rfl
    | cons second rest => split <;> rfl

/-- A blank at the seam keeps the words on its sides apart. -/
theorem map_words_glued {c : Char} (blank : Text.isBlank c = true) {lists : List (List Char)}
    (some_list : lists ≠ []) (first : List Char) (others : List (List Char)) :
    (glued lists ((c :: first) :: others)).map words =
      glued (lists.map words) (words first :: others.map words) := by
  induction lists with
  | nil => exact absurd rfl some_list
  | cons list rest ih =>
    cases rest with
    | nil => simp [glued, words_append blank]
    | cons next rest =>
      rw [glued, List.map_cons, ih (by simp)]
      rfl

theorem cornersBetweenCommas_ne_nil (text : List Char) : cornersBetweenCommas text ≠ [] := by
  simpa [cornersBetweenCommas] using pieces_ne_nil _ text

/-- At a blank a corner is not cut: its components stand on both sides of it. -/
theorem cornersBetweenCommas_append {c : Char} (blank : Text.isBlank c = true)
    (text more : List Char) :
    cornersBetweenCommas (text ++ c :: more) =
      glued (cornersBetweenCommas text) (cornersBetweenCommas more) := by
  have no_comma : (c == ',') = false := by
    rw [beq_eq_false_iff_ne]
    rintro rfl
    cases blank
  obtain ⟨first, others, cut⟩ :=
    List.exists_cons_of_ne_nil (pieces_ne_nil (fun c => c == ',') more)
  have begins : pieces (fun c => c == ',') (c :: more) = (c :: first) :: others := by
    rw [pieces, cut, no_comma]
    rfl
  rw [cornersBetweenCommas, pieces_append_text, begins,
    map_words_glued blank (pieces_ne_nil _ text), cornersBetweenCommas, cornersBetweenCommas, cut,
    List.map_cons]

/-- The words of a text decide how it is cut. -/
theorem cornersBetweenCommas_eq_foldr (text : List Char) :
    cornersBetweenCommas text = ((words text).map cornersBetweenCommas).foldr glued [[]] := by
  induction text using induction_on_blanks with
  | free word plain =>
    by_cases empty : word = []
    · subst empty
      rfl
    · rw [words_of_noBlank empty plain]
      exact (glued_nil (cornersBetweenCommas_ne_nil word)).symm
  | next word c rest plain blank ih =>
    rw [cornersBetweenCommas_append blank, words_append blank]
    -- Where two blanks meet, the word between them is empty and adds no corner.
    by_cases empty : word = []
    · subst empty
      exact (nil_glued (cornersBetweenCommas_ne_nil rest)).trans ih
    · rw [words_of_noBlank empty plain, List.singleton_append, List.map_cons, List.foldr_cons, ← ih]

theorem cornersBetweenCommas_singleSpaced (text : List Char) :
    cornersBetweenCommas (singleSpaced text) = cornersBetweenCommas text := by
  rw [cornersBetweenCommas_eq_foldr, cornersBetweenCommas_eq_foldr text, singleSpaced,
    words_intercalate fun word member => mem_words member]

end CommaBetween

/-- The corners that are read after the exchange are those of the text as it stands. -/
theorem hasCorners_normalized (text : List Char) :
    HasCorners text (cornersBetweenCommas (normalizeCoordinates (singleSpaced text))) := by
  unfold normalizeCoordinates
  split
  next leads =>
    have number_first := commaLeads_iff.mp leads
    rw [cornersBetweenCommas_swapped number_first]
    exact .commasInside number_first
  next other =>
    rw [cornersBetweenCommas_singleSpaced]
    exact .commaBetween fun number_first => other (commaLeads_iff.mpr number_first)

/-! ## Readings -/

/-- The component is a numeral of the number, which is finite. -/
def WritesNumber (component : List Char) (value : Binary64) : Prop :=
  Binary64.read? component = some value ∧ value.isFinite = true

/-- The first two components write the coordinates of the corner. -/
def WritesCorner (components : List (List Char)) (corner : Corner) : Prop :=
  ∃ x y rest, components = x :: y :: rest ∧ WritesNumber x corner.x ∧ WritesNumber y corner.y

/-- The first two corners write those of the envelope. -/
def WritesEnvelope (corners : List (List (List Char))) (envelope : Envelope) : Prop :=
  ∃ lower upper rest, corners = lower :: upper :: rest ∧
    WritesCorner lower envelope.lower ∧ WritesCorner upper envelope.upper

/-- What is wrong with the components of a corner: one is missing, or else the first that does not
write a number is reported. -/
inductive CornerFault : List (List Char) → FilterError → Prop
  | few {components : List (List Char)} (few : components.length < 2) :
    CornerFault components
      (.structural (.notTwoCoordinates (String.ofList components.flatten)))
  | x {x y : List Char} {rest : List (List Char)} (bad : ∀ value, ¬ WritesNumber x value) :
    CornerFault (x :: y :: rest) (.malformedNumber (String.ofList x))
  | y {x y : List Char} {rest : List (List Char)} {value : Binary64} (good : WritesNumber x value)
      (bad : ∀ value, ¬ WritesNumber y value) :
    CornerFault (x :: y :: rest) (.malformedNumber (String.ofList y))

/-- What is wrong with the corners of a text: one is missing, or else the lower is looked at before
the upper. -/
inductive EnvelopeFault (text : List Char) : List (List (List Char)) → FilterError → Prop
  | few {corners : List (List (List Char))} (few : corners.length < 2) :
    EnvelopeFault text corners
      (.structural (.notTwoCorners (String.ofList (singleSpaced text))))
  | lower {lower upper : List (List Char)} {rest : List (List (List Char))} {error : FilterError}
      (fault : CornerFault lower error) :
    EnvelopeFault text (lower :: upper :: rest) error
  | upper {lower upper : List (List Char)} {rest : List (List (List Char))} {error : FilterError}
      {corner : Corner} (good : WritesCorner lower corner) (fault : CornerFault upper error) :
    EnvelopeFault text (lower :: upper :: rest) error

/-- Two readings in a row fail with the first error. -/
theorem both_eq_error_iff {α β γ : Type} {first : Except FilterError α}
    {second : Except FilterError β} {make : α → β → γ} {error : FilterError} :
    (do return make (← first) (← second)) = .error error ↔
      first = .error error ∨ ∃ a, first = .ok a ∧ second = .error error := by
  cases first with
  | error fault => simp [bind, Except.bind]
  | ok a => cases second <;> simp [bind, Except.bind, pure, Except.pure]

section Component

variable {component : List Char}

theorem readNumber_component_eq_ok_iff (whole : component ≠ [] ∧ NoBlank component)
    {value : Binary64} : readNumber component = .ok value ↔ WritesNumber component value := by
  rw [readNumber_eq_ok, trim_of_shows (shows_word component) whole.1 whole.2]
  rfl

theorem readNumber_component_eq_error_iff (whole : component ≠ [] ∧ NoBlank component)
    {error : FilterError} :
    readNumber component = .error error ↔
      (∀ value, ¬ WritesNumber component value) ∧
        error = .malformedNumber (String.ofList component) := by
  unfold readNumber WritesNumber
  rw [trim_of_shows (shows_word component) whole.1 whole.2]
  dsimp only
  cases Binary64.read? component with
  | none => simp [@eq_comm _ error]
  | some value => cases finite : value.isFinite <;> simp [finite, @eq_comm _ error]

end Component

section Position

variable {text : List Char}

/-- A position is read as a corner exactly when its words write the corner. -/
theorem readPosition_eq_ok_iff_writesCorner {corner : Corner} :
    readPosition text = .ok corner ↔ WritesCorner (words text) corner := by
  have whole := @mem_words text
  unfold readPosition
  split
  next x y rest cut =>
    rw [cut] at whole ⊢
    have x_iff := @readNumber_component_eq_ok_iff x (whole (by simp))
    have y_iff := @readNumber_component_eq_ok_iff y (whole (by simp))
    rw [both_eq_ok_iff]
    constructor
    · intro read
      obtain ⟨a, b, a_read, b_read, rfl⟩ := read
      exact ⟨x, y, rest, rfl, x_iff.mp a_read, y_iff.mp b_read⟩
    · intro writes
      obtain ⟨_, _, _, same, x_writes, y_writes⟩ := writes
      cases same
      exact ⟨corner.x, corner.y, x_iff.mpr x_writes, y_iff.mpr y_writes, rfl⟩
  next few =>
    constructor
    · intro read
      cases read
    · intro writes
      obtain ⟨x, y, rest, cut, -⟩ := writes
      exact absurd cut (few x y rest)

/-- A position is refused exactly for the first thing that is wrong with its words. -/
theorem readPosition_eq_error_iff {error : FilterError} :
    readPosition text = .error error ↔ CornerFault (words text) error := by
  have whole := @mem_words text
  unfold readPosition
  split
  next x y rest cut =>
    rw [cut] at whole ⊢
    have x_whole := whole (by simp : x ∈ x :: y :: rest)
    have y_whole := whole (by simp : y ∈ x :: y :: rest)
    rw [both_eq_error_iff]
    simp only [readNumber_component_eq_ok_iff x_whole, readNumber_component_eq_error_iff x_whole,
      readNumber_component_eq_error_iff y_whole]
    constructor
    · intro read
      rcases read with ⟨bad, rfl⟩ | ⟨value, good, bad, rfl⟩
      · exact .x bad
      · exact .y good bad
    · intro fault
      cases fault with
      | few few => exact absurd few (by simp)
      | x bad => exact .inl ⟨bad, rfl⟩
      | y good bad => exact .inr ⟨_, good, bad, rfl⟩
  next few =>
    have fewer : (words text).length < 2 := by
      match shown : words text with
      | [] => simp
      | [_] => simp
      | x :: y :: rest => exact absurd shown (few x y rest)
    rw [trim_eq_flatten fewer]
    constructor
    · intro read
      cases read
      exact .few fewer
    · intro fault
      generalize words text = components at few fault
      cases fault with
      | few => rfl
      | x bad => exact absurd rfl (few _ _ _)
      | y good bad => exact absurd rfl (few _ _ _)

end Position

/-- A text is read as two positions with the components of its corners, or has fewer corners. -/
theorem ofCoordinates_cases {text : List Char} {corners : List (List (List Char))}
    (has : HasCorners text corners) :
    (∃ lower upper rest, corners = words lower :: words upper :: rest ∧
      Envelope.ofCoordinates text =
        (do return ⟨← readPosition lower, ← readPosition upper⟩)) ∨
    corners.length < 2 ∧ Envelope.ofCoordinates text =
      .error (.structural (.notTwoCorners (String.ofList (singleSpaced text)))) := by
  -- The corners are the words of the pieces that the reader looks at.
  obtain rfl := has.unique (hasCorners_normalized text)
  unfold Envelope.ofCoordinates cornersBetweenCommas
  dsimp only
  split
  next lower upper rest cut =>
    unfold singleSpaced
    rw [cut]
    exact .inl ⟨lower, upper, rest.map words, rfl, rfl⟩
  next few =>
    refine .inr ⟨?_, rfl⟩
    rw [List.length_map]
    match cut : pieces (fun c => c == ',') (normalizeCoordinates (singleSpaced text)) with
    | [] => simp
    | [_] => simp
    | lower :: upper :: rest => exact absurd cut (few lower upper rest)

section Corners

variable {text : List Char} {corners : List (List (List Char))}

/-- Coordinates are read as an envelope exactly when their first two corners write it. -/
theorem ofCoordinates_eq_ok_iff (has : HasCorners text corners) {envelope : Envelope} :
    Envelope.ofCoordinates text = .ok envelope ↔ WritesEnvelope corners envelope := by
  rcases ofCoordinates_cases has with ⟨lower, upper, rest, rfl, read⟩ | ⟨few, failed⟩
  · rw [read, both_eq_ok_iff]
    simp only [readPosition_eq_ok_iff_writesCorner]
    constructor
    · intro both
      obtain ⟨low, high, low_writes, high_writes, rfl⟩ := both
      exact ⟨_, _, _, rfl, low_writes, high_writes⟩
    · intro writes
      obtain ⟨_, _, _, same, low_writes, high_writes⟩ := writes
      cases same
      exact ⟨_, _, low_writes, high_writes, rfl⟩
  · rw [failed]
    constructor
    · intro read
      cases read
    · intro writes
      obtain ⟨lower, upper, rest, rfl, -⟩ := writes
      exact absurd few (by simp)

/-- Coordinates are refused exactly for the first thing that is wrong with their corners. -/
theorem ofCoordinates_eq_error_iff (has : HasCorners text corners) {error : FilterError} :
    Envelope.ofCoordinates text = .error error ↔ EnvelopeFault text corners error := by
  rcases ofCoordinates_cases has with ⟨lower, upper, rest, rfl, read⟩ | ⟨few, failed⟩
  · rw [read, both_eq_error_iff]
    simp only [readPosition_eq_ok_iff_writesCorner, readPosition_eq_error_iff]
    constructor
    · intro either
      rcases either with fault | ⟨corner, good, fault⟩
      · exact .lower fault
      · exact .upper good fault
    · intro fault
      cases fault with
      | few few => exact absurd few (by simp)
      | lower fault => exact .inl fault
      | upper good fault => exact .inr ⟨_, good, fault⟩
  · rw [failed]
    constructor
    · intro read
      cases read
      exact .few few
    · intro fault
      cases fault with
      | few => rfl
      | lower => exact absurd few (by simp)
      | upper => exact absurd few (by simp)

end Corners

/-- In a `Box` whose first child element is no `coord`, one text lists the corners, and how it is
cut shows at its first separator.  The box is read exactly when there are two corners with two
finite numbers each in front, as the envelope of these four; and otherwise the first fault is
reported, in the order in which the corners are written. -/
theorem box_is_read_by_grammar {box coordinates : Element} {others : List Element}
    (named : box.name = "Box") (children : box.elements = coordinates :: others)
    (one_text : coordinates.name ≠ "coord") :
    let text := coordinates.text.toList
    ∃ corners, HasCorners text corners ∧
      (∀ envelope, Envelope.ofElement box = .ok envelope ↔ WritesEnvelope corners envelope) ∧
      ∀ error, Envelope.ofElement box = .error error ↔ EnvelopeFault text corners error := by
  intro text
  have has := hasCorners_normalized text
  have read : Envelope.ofElement box = Envelope.ofCoordinates text := by
    unfold Envelope.ofElement Envelope.ofBox
    rw [if_neg (by simp [named]), if_pos named, children]
    dsimp only
    rw [if_neg one_text]
  rw [read]
  exact ⟨_, has, fun _ => ofCoordinates_eq_ok_iff has, fun _ => ofCoordinates_eq_error_iff has⟩

theorem exists_writesNumber {component : List Char}
    (finite : (Binary64.read? component).any Binary64.isFinite = true) :
    ∃ value, WritesNumber component value :=
  (Option.any_eq_true _ _).mp finite

def coordinatesOf (text : String) : Element :=
  ⟨"coordinates", [], [.text text]⟩

def coordinatesBox (text : String) : Element :=
  ⟨"Box", [], [(coordinatesOf text).toNode]⟩

/-- Doubled commas and further corners are passed over, and a missing number is reported. -/
theorem doubled_commas_are_passed_over :
    (∃ envelope, Envelope.ofElement (coordinatesBox "\n1.5e0,,2, 3,4 9,9") = .ok envelope ∧
      WritesCorner ["1.5e0".toList, "2".toList] envelope.lower ∧
      WritesCorner ["3".toList, "4".toList] envelope.upper) ∧
    Envelope.ofElement (coordinatesBox "1\t2 ,3") =
      .error (.structural (.notTwoCoordinates "3")) := by
  have finite : ∀ component ∈ ["1.5e0", "1", "2", "3", "4"],
      (Binary64.read? component.toList).any Binary64.isFinite = true := by decide +kernel
  constructor
  · let child := coordinatesOf "\n1.5e0,,2, 3,4 9,9"
    have cut : cornersInWords child.text.toList = [["1.5e0".toList, "2".toList],
        ["3".toList, "4".toList], ["9".toList, "9".toList]] := by decide
    obtain ⟨corners, has, accepted, -⟩ := @box_is_read_by_grammar
      (coordinatesBox "\n1.5e0,,2, 3,4 9,9") child [] rfl rfl (by decide)
    obtain rfl := has.unique (.commasInside (commaLeads_iff.mp (by decide)))
    obtain ⟨x₀, x₀_writes⟩ := exists_writesNumber (finite "1.5e0" (by simp))
    obtain ⟨y₀, y₀_writes⟩ := exists_writesNumber (finite "2" (by simp))
    obtain ⟨x₁, x₁_writes⟩ := exists_writesNumber (finite "3" (by simp))
    obtain ⟨y₁, y₁_writes⟩ := exists_writesNumber (finite "4" (by simp))
    have lower : WritesCorner ["1.5e0".toList, "2".toList] ⟨x₀, y₀⟩ :=
      ⟨_, _, _, rfl, x₀_writes, y₀_writes⟩
    have upper : WritesCorner ["3".toList, "4".toList] ⟨x₁, y₁⟩ :=
      ⟨_, _, _, rfl, x₁_writes, y₁_writes⟩
    refine ⟨⟨⟨x₀, y₀⟩, ⟨x₁, y₁⟩⟩, (accepted _).mpr ?_, lower, upper⟩
    rw [cut]
    exact ⟨_, _, _, rfl, lower, upper⟩
  · let child := coordinatesOf "1\t2 ,3"
    have cut : cornersBetweenCommas child.text.toList =
        [["1".toList, "2".toList], ["3".toList]] := by decide
    obtain ⟨corners, has, -, refused⟩ := @box_is_read_by_grammar
      (coordinatesBox "1\t2 ,3") child [] rfl rfl (by decide)
    have other : ¬ NumberBeforeComma child.text.toList := by
      rw [← commaLeads_iff]
      decide
    obtain rfl := has.unique (.commaBetween other)
    obtain ⟨x, x_writes⟩ := exists_writesNumber (finite "1" (by simp))
    obtain ⟨y, y_writes⟩ := exists_writesNumber (finite "2" (by simp))
    have lower : WritesCorner ["1".toList, "2".toList] ⟨x, y⟩ :=
      ⟨_, _, _, rfl, x_writes, y_writes⟩
    rw [refused, cut]
    exact .upper lower (.few (by decide))

end SpatialFilter
