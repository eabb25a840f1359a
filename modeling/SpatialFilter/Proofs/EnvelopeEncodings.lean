import SpatialFilter.Filter.Envelope
import SpatialFilter.Proofs.Results
import SpatialFilter.Proofs.SeparatorExchange
import SpatialFilter.Proofs.Words

/-!
# Encodings of an envelope

Four coordinates can be written as an element in four ways: as one text with commas inside the
corners or with a comma between them, with an element for each coordinate, and with a text for each
corner.  All four are read alike (`ofElement_of_encodes`): they give the envelope of the four
numbers if each text is a finite number, and are refused otherwise.

The first two share one element, and which of them is meant shows at the first separator.  A text
that is no number can hide a comma from that test, but then the text is refused anyway.
-/

namespace SpatialFilter

open SpatialFilter.Number
open SpatialFilter.Markup
open SpatialFilter.Text

/-- A coordinate as it is written: some text without blanks and commas. -/
structure CoordinateText where
  chars : List Char
  some_text : chars ≠ []
  noBlank : NoBlank chars
  noComma : ',' ∉ chars

/-- The text is a numeral of the number, which is finite. -/
def CoordinateText.Writes (text : CoordinateText) (value : Binary64) : Prop :=
  Binary64.read? text.chars = some value ∧ value.isFinite = true

/-- The coordinates of two corners as they are written. -/
structure EnvelopeText where
  lowerX : CoordinateText
  lowerY : CoordinateText
  upperX : CoordinateText
  upperY : CoordinateText

namespace EnvelopeText

/-- Each text is a numeral of the coordinate in its place. -/
structure Writes (written : EnvelopeText) (envelope : Envelope) : Prop where
  lowerX : written.lowerX.Writes envelope.lower.x
  lowerY : written.lowerY.Writes envelope.lower.y
  upperX : written.upperX.Writes envelope.upper.x
  upperY : written.upperY.Writes envelope.upper.y

def texts (written : EnvelopeText) : List CoordinateText :=
  [written.lowerX, written.lowerY, written.upperX, written.upperY]

/-- Four finite numbers make one envelope. -/
theorem exists_writes_iff (written : EnvelopeText) :
    (∃ envelope, written.Writes envelope) ↔ ∀ text ∈ written.texts, ∃ value, text.Writes value := by
  constructor
  · rintro ⟨envelope, writes⟩ text member
    simp only [texts, List.mem_cons, List.not_mem_nil, or_false] at member
    rcases member with rfl | rfl | rfl | rfl
    · exact ⟨_, writes.lowerX⟩
    · exact ⟨_, writes.lowerY⟩
    · exact ⟨_, writes.upperX⟩
    · exact ⟨_, writes.upperY⟩
  · intro each
    obtain ⟨x₀, x₀_writes⟩ := each written.lowerX (by simp [texts])
    obtain ⟨y₀, y₀_writes⟩ := each written.lowerY (by simp [texts])
    obtain ⟨x₁, x₁_writes⟩ := each written.upperX (by simp [texts])
    obtain ⟨y₁, y₁_writes⟩ := each written.upperY (by simp [texts])
    exact ⟨⟨⟨x₀, y₀⟩, ⟨x₁, y₁⟩⟩, x₀_writes, y₀_writes, x₁_writes, y₁_writes⟩

end EnvelopeText

/-- The element has a child element for each coordinate of a corner. -/
structure CoordOf (x y : CoordinateText) (coord : Element) : Prop where
  named : coord.name = "coord"
  holds : ∃ first second, coord.elements = [first, second] ∧
    first.name = "X" ∧ Shows [x.chars] first.text.toList ∧
    second.name = "Y" ∧ Shows [y.chars] second.text.toList

/-- The ways to write the four coordinates as an element.  Where a space is meant, there may be any
blanks, and there may be any blanks around a text. -/
inductive Encodes (written : EnvelopeText) : Element → Prop
  /-- `x,y x,y` -/
  | commasInside {box coordinates : Element} (named : box.name = "Box")
      (only : box.elements = [coordinates]) (inner : coordinates.name = "coordinates")
      (shows : Shows [written.lowerX.chars ++ ',' :: written.lowerY.chars,
        written.upperX.chars ++ ',' :: written.upperY.chars] coordinates.text.toList) :
      Encodes written box
  /-- `x y,x y` -/
  | commaBetween {box coordinates : Element} (named : box.name = "Box")
      (only : box.elements = [coordinates]) (inner : coordinates.name = "coordinates")
      (shows : Shows [written.lowerX.chars, written.lowerY.chars ++ ',' :: written.upperX.chars,
        written.upperY.chars] coordinates.text.toList) :
      Encodes written box
  | coords {box lower upper : Element} (named : box.name = "Box")
      (both : box.elements = [lower, upper])
      (lower_coord : CoordOf written.lowerX written.lowerY lower)
      (upper_coord : CoordOf written.upperX written.upperY upper) :
      Encodes written box
  | corners {envelope lower upper : Element} (named : envelope.name = "Envelope")
      (both : envelope.elements = [lower, upper])
      (lower_shows : Shows [written.lowerX.chars, written.lowerY.chars] lower.text.toList)
      (upper_shows : Shows [written.upperX.chars, written.upperY.chars] upper.text.toList) :
      Encodes written envelope

/-! ## Numbers and positions -/

theorem readNumber_eq_ok_iff {text : List Char} {written : CoordinateText} {value : Binary64}
    (trimmed : trim text = written.chars) :
    readNumber text = .ok value ↔ written.Writes value := by
  rw [readNumber_eq_ok, trimmed]
  rfl

/-- Two readings in a row. -/
theorem both_eq_ok_iff {α β γ : Type} {first : Except FilterError α}
    {second : Except FilterError β} {make : α → β → γ} {value : γ} :
    (do return make (← first) (← second)) = .ok value ↔
      ∃ a b, first = .ok a ∧ second = .ok b ∧ make a b = value := by
  constructor
  · intro read
    obtain ⟨a, a_read, read⟩ := bind_eq_ok.mp read
    obtain ⟨b, b_read, read⟩ := bind_eq_ok.mp read
    cases read
    exact ⟨a, b, a_read, b_read, rfl⟩
  · rintro ⟨a, b, rfl, rfl, rfl⟩
    rfl

/-- A position of two words is read as the corner that the words write. -/
theorem readPosition_eq_ok_iff {text : List Char} {x y : CoordinateText} {corner : Corner}
    (shown : words text = [x.chars, y.chars]) :
    readPosition text = .ok corner ↔ x.Writes corner.x ∧ y.Writes corner.y := by
  have trimmed : ∀ coordinate : CoordinateText, trim coordinate.chars = coordinate.chars :=
    fun coordinate => trim_of_shows (shows_word _) coordinate.some_text coordinate.noBlank
  unfold readPosition
  simp only [shown]
  rw [both_eq_ok_iff]
  constructor
  · rintro ⟨a, b, a_read, b_read, rfl⟩
    exact ⟨(readNumber_eq_ok_iff (trimmed x)).mp a_read,
      (readNumber_eq_ok_iff (trimmed y)).mp b_read⟩
  · rintro ⟨x_writes, y_writes⟩
    exact ⟨corner.x, corner.y, (readNumber_eq_ok_iff (trimmed x)).mpr x_writes,
      (readNumber_eq_ok_iff (trimmed y)).mpr y_writes, rfl⟩

/-- One word is no position. -/
theorem readPosition_of_word {text : List Char} {word : List Char} (shown : words text = [word])
    (corner : Corner) : readPosition text ≠ .ok corner := by
  unfold readPosition
  simp [shown]

/-- Two corners are read one after the other. -/
theorem corners_eq_ok_iff {written : EnvelopeText} {lower upper : Except FilterError Corner}
    {envelope : Envelope}
    (lower_read : ∀ corner, lower = .ok corner ↔
      written.lowerX.Writes corner.x ∧ written.lowerY.Writes corner.y)
    (upper_read : ∀ corner, upper = .ok corner ↔
      written.upperX.Writes corner.x ∧ written.upperY.Writes corner.y) :
    (do return Envelope.mk (← lower) (← upper)) = .ok envelope ↔ written.Writes envelope := by
  rw [both_eq_ok_iff]
  constructor
  · rintro ⟨a, b, a_read, b_read, rfl⟩
    obtain ⟨x₀, y₀⟩ := (lower_read a).mp a_read
    obtain ⟨x₁, y₁⟩ := (upper_read b).mp b_read
    exact ⟨x₀, y₀, x₁, y₁⟩
  · rintro ⟨x₀, y₀, x₁, y₁⟩
    exact ⟨envelope.lower, envelope.upper, (lower_read _).mpr ⟨x₀, y₀⟩,
      (upper_read _).mpr ⟨x₁, y₁⟩, rfl⟩

/-! ## One text of coordinates -/

section Coordinates

variable {written : EnvelopeText} {text : List Char} {envelope : Envelope}

theorem CoordinateText.not_comma (coordinate : CoordinateText) :
    ∀ c ∈ coordinate.chars, (c == ',') = false := by
  intro c member
  rw [beq_eq_false_iff_ne]
  rintro rfl
  exact coordinate.noComma member

/-- Two coordinates without a blank between them are one word. -/
theorem joined_noBlank (one other : CoordinateText) :
    NoBlank (one.chars ++ ',' :: other.chars) := by
  intro c member
  rcases List.mem_append.mp member with inside | inside
  · exact one.noBlank c inside
  · rcases List.mem_cons.mp inside with rfl | inside
    · decide
    · exact other.noBlank c inside

/-- Two coordinates with a space between them. -/
theorem words_of_spaced (one other : CoordinateText) :
    words (one.chars ++ ' ' :: other.chars) = [one.chars, other.chars] := by
  have space : Text.isBlank ' ' = true := by decide
  rw [words_append space, words_of_noBlank one.some_text one.noBlank,
    words_of_noBlank other.some_text other.noBlank]
  rfl

/-- A comma between two positions cuts them apart. -/
theorem pieces_of_positions (written : EnvelopeText) :
    pieces (fun c => c == ',') (written.lowerX.chars ++ ' ' :: written.lowerY.chars ++
        ',' :: (written.upperX.chars ++ ' ' :: written.upperY.chars)) =
      [written.lowerX.chars ++ ' ' :: written.lowerY.chars,
        written.upperX.chars ++ ' ' :: written.upperY.chars] := by
  have free : ∀ one other : CoordinateText,
      ∀ c ∈ one.chars ++ ' ' :: other.chars, (c == ',') = false := by
    intro one other c member
    rcases List.mem_append.mp member with inside | inside
    · exact one.not_comma c inside
    · rcases List.mem_cons.mp inside with rfl | inside
      · rfl
      · exact other.not_comma c inside
  rw [pieces_append (by rfl), pieces_of_free (free _ _), pieces_of_free (free _ _)]
  rfl

theorem positions_eq_ok_iff {lower upper : List Char}
    (lower_eq : lower = written.lowerX.chars ++ ' ' :: written.lowerY.chars)
    (upper_eq : upper = written.upperX.chars ++ ' ' :: written.upperY.chars) :
    (do return Envelope.mk (← readPosition lower) (← readPosition upper)) = .ok envelope ↔
      written.Writes envelope := by
  subst lower_eq upper_eq
  exact corners_eq_ok_iff
    (fun _ => readPosition_eq_ok_iff (words_of_spaced written.lowerX written.lowerY))
    (fun _ => readPosition_eq_ok_iff (words_of_spaced written.upperX written.upperY))

/-- A coordinate has neither separator in it. -/
theorem map_swapSeparator (coordinate : CoordinateText) :
    coordinate.chars.map swapSeparator = coordinate.chars := by
  have kept : ∀ c ∈ coordinate.chars, swapSeparator c = c := by
    intro c member
    apply swapSeparator_of_ne
    · rintro rfl
      exact absurd (coordinate.noBlank _ member) (by decide)
    · rintro rfl
      exact coordinate.noComma member
  rw [List.map_congr_left kept, List.map_id']

/-- With commas inside the corners, a comma comes first and the separators change places. -/
theorem ofCoordinates_of_commasInside
    (shows : Shows [written.lowerX.chars ++ ',' :: written.lowerY.chars,
      written.upperX.chars ++ ',' :: written.upperY.chars] text) :
    Envelope.ofCoordinates text = .ok envelope ↔ written.Writes envelope := by
  have shown := words_of_shows shows (by
    intro word member
    simp only [List.mem_cons, List.not_mem_nil, or_false] at member
    rcases member with rfl | rfl
    · exact ⟨by simp, joined_noBlank _ _⟩
    · exact ⟨by simp, joined_noBlank _ _⟩)
  unfold Envelope.ofCoordinates
  rw [shown]
  dsimp only
  have collapsed : [' '].intercalate [written.lowerX.chars ++ ',' :: written.lowerY.chars,
      written.upperX.chars ++ ',' :: written.upperY.chars] =
      written.lowerX.chars ++ ',' :: (written.lowerY.chars ++ ' ' ::
        (written.upperX.chars ++ ',' :: written.upperY.chars)) := by
    simp [List.intercalate]
  rw [collapsed]
  unfold normalizeCoordinates
  by_cases leads : commaLeads (written.lowerX.chars ++ ',' :: (written.lowerY.chars ++ ' ' ::
      (written.upperX.chars ++ ',' :: written.upperY.chars))) = true
  · rw [if_pos leads]
    have swapped : (written.lowerX.chars ++ ',' :: (written.lowerY.chars ++ ' ' ::
        (written.upperX.chars ++ ',' :: written.upperY.chars))).map swapSeparator =
        written.lowerX.chars ++ ' ' :: written.lowerY.chars ++
          ',' :: (written.upperX.chars ++ ' ' :: written.upperY.chars) := by
      simp [map_swapSeparator, swapSeparator]
    rw [swapped, pieces_of_positions]
    exact positions_eq_ok_iff rfl rfl
  · -- The first coordinate hides its comma, so it is no number, and it stands alone in its piece.
    rw [if_neg leads, pieces_append (by rfl), pieces_of_free written.lowerX.not_comma]
    constructor
    · intro read
      split at read
      next lower upper others cut =>
        obtain ⟨corner, -, alone, -⟩ := both_eq_ok_iff.mp read
        rw [← (List.cons.inj cut).1] at alone
        exact absurd alone (readPosition_of_word
          (words_of_noBlank written.lowerX.some_text written.lowerX.noBlank) corner)
      · cases read
    · intro writes
      exact absurd (commaLeads_of_finite writes.lowerX.1 writes.lowerX.2) leads

/-- With a comma between the corners, a blank comes first and the text is read as it is. -/
theorem ofCoordinates_of_commaBetween
    (shows : Shows [written.lowerX.chars, written.lowerY.chars ++ ',' :: written.upperX.chars,
      written.upperY.chars] text) :
    Envelope.ofCoordinates text = .ok envelope ↔ written.Writes envelope := by
  have shown := words_of_shows shows (by
    intro word member
    simp only [List.mem_cons, List.not_mem_nil, or_false] at member
    rcases member with rfl | rfl | rfl
    · exact ⟨written.lowerX.some_text, written.lowerX.noBlank⟩
    · exact ⟨by simp, joined_noBlank _ _⟩
    · exact ⟨written.upperY.some_text, written.upperY.noBlank⟩)
  unfold Envelope.ofCoordinates
  rw [shown]
  dsimp only
  have collapsed : [' '].intercalate [written.lowerX.chars,
      written.lowerY.chars ++ ',' :: written.upperX.chars, written.upperY.chars] =
      written.lowerX.chars ++ ' ' :: (written.lowerY.chars ++
        ',' :: (written.upperX.chars ++ ' ' :: written.upperY.chars)) := by
    simp [List.intercalate]
  rw [collapsed]
  unfold normalizeCoordinates
  rw [commaLeads_of_space written.lowerX.noComma, if_neg (by decide)]
  have grouped : written.lowerX.chars ++ ' ' :: (written.lowerY.chars ++
      ',' :: (written.upperX.chars ++ ' ' :: written.upperY.chars)) =
      written.lowerX.chars ++ ' ' :: written.lowerY.chars ++
        ',' :: (written.upperX.chars ++ ' ' :: written.upperY.chars) := by
    simp
  rw [grouped, pieces_of_positions]
  exact positions_eq_ok_iff rfl rfl

end Coordinates

/-! ## Elements -/

theorem axis_eq_ok_iff {coord child : Element} {name : String} {written : CoordinateText}
    {value : Binary64} (found : coord.elements.find? (fun child => child.name == name) = some child)
    (shows : Shows [written.chars] child.text.toList) :
    Envelope.axis coord name = .ok value ↔ written.Writes value := by
  unfold Envelope.axis
  rw [found]
  exact readNumber_eq_ok_iff (trim_of_shows shows written.some_text written.noBlank)

/-- A corner with an element for each coordinate is read as the corner that they write. -/
theorem cornerOfCoord_eq_ok_iff {x y : CoordinateText} {coord : Element} {corner : Corner}
    (holds : CoordOf x y coord) :
    Envelope.cornerOfCoord coord = .ok corner ↔ x.Writes corner.x ∧ y.Writes corner.y := by
  obtain ⟨first, second, both, first_named, x_shows, second_named, y_shows⟩ := holds.holds
  have x_found : coord.elements.find? (fun child => child.name == "X") = some first := by
    simp [both, first_named]
  have y_found : coord.elements.find? (fun child => child.name == "Y") = some second := by
    simp [both, first_named, second_named]
  unfold Envelope.cornerOfCoord
  rw [both_eq_ok_iff]
  simp only [axis_eq_ok_iff x_found x_shows, axis_eq_ok_iff y_found y_shows]
  constructor
  · rintro ⟨a, b, a_writes, b_writes, rfl⟩
    exact ⟨a_writes, b_writes⟩
  · rintro ⟨x_writes, y_writes⟩
    exact ⟨corner.x, corner.y, x_writes, y_writes, rfl⟩

/-- Each encoding is read as the envelope that the texts write, and refused if there is none. -/
theorem ofElement_of_encodes {written : EnvelopeText} {element : Element} {envelope : Envelope}
    (encodes : Encodes written element) :
    Envelope.ofElement element = .ok envelope ↔ written.Writes envelope := by
  unfold Envelope.ofElement
  cases encodes with
  | commasInside named only inner shows =>
    simp only [named, Envelope.ofBox, only, inner, String.reduceEq, reduceIte]
    exact ofCoordinates_of_commasInside shows
  | commaBetween named only inner shows =>
    simp only [named, Envelope.ofBox, only, inner, String.reduceEq, reduceIte]
    exact ofCoordinates_of_commaBetween shows
  | coords named both lower_coord upper_coord =>
    simp only [named, Envelope.ofBox, both, lower_coord.named, Envelope.ofCoords, String.reduceEq,
      reduceIte]
    rw [List.filter_cons_of_pos (by simp [lower_coord.named]),
      List.filter_cons_of_pos (by simp [upper_coord.named])]
    exact corners_eq_ok_iff (fun _ => cornerOfCoord_eq_ok_iff lower_coord)
      (fun _ => cornerOfCoord_eq_ok_iff upper_coord)
  | corners named both lower_shows upper_shows =>
    have each : ∀ x y : CoordinateText, ∀ word ∈ [x.chars, y.chars], word ≠ [] ∧ NoBlank word := by
      intro x y word member
      simp only [List.mem_cons, List.not_mem_nil, or_false] at member
      rcases member with rfl | rfl
      · exact ⟨x.some_text, x.noBlank⟩
      · exact ⟨y.some_text, y.noBlank⟩
    simp only [named, Envelope.ofCorners, both]
    exact corners_eq_ok_iff
      (fun _ => readPosition_eq_ok_iff (words_of_shows lower_shows (each _ _)))
      (fun _ => readPosition_eq_ok_iff (words_of_shows upper_shows (each _ _)))

/-- Elements that write the same four texts are read alike.  They are accepted exactly when each
text is a finite number, and then they give these numbers in these places.  The test that tells the
two ways of writing a box in one text apart sees every finite number in front of a comma. -/
theorem encodings_agree (written : EnvelopeText) :
    (∀ one other, Encodes written one → Encodes written other →
      ∀ envelope, Envelope.ofElement one = .ok envelope ↔ Envelope.ofElement other = .ok envelope) ∧
      (∀ element, Encodes written element →
        ((∃ envelope, Envelope.ofElement element = .ok envelope) ↔
          ∀ text ∈ written.texts, ∃ value, text.Writes value)) ∧
      (∀ element envelope, Encodes written element → Envelope.ofElement element = .ok envelope →
        written.Writes envelope) ∧
      ∀ numeral value rest, Binary64.read? numeral = some value → value.isFinite = true →
        commaLeads (numeral ++ ',' :: rest) = true := by
  refine ⟨?_, ?_, ?_, fun _ _ _ => commaLeads_of_finite⟩
  · intro one other encodes encodes' envelope
    rw [ofElement_of_encodes encodes, ofElement_of_encodes encodes']
  · intro element encodes
    simp only [ofElement_of_encodes encodes]
    exact written.exists_writes_iff
  · intro element envelope encodes read
    exact (ofElement_of_encodes encodes).mp read

/-! ## An envelope in four spellings of numbers -/

/-- Signs, bare points and exponents in either letter case. -/
def spelledText : EnvelopeText where
  lowerX := ⟨['+', '1', '.', '5', 'e', '2'], by decide, noBlank_of_all (by decide), by decide⟩
  lowerY := ⟨['-', '.', '5'], by decide, noBlank_of_all (by decide), by decide⟩
  upperX := ⟨['3', '.'], by decide, noBlank_of_all (by decide), by decide⟩
  upperY := ⟨['4', 'E', '+', '1'], by decide, noBlank_of_all (by decide), by decide⟩

/-- The envelope in one text with commas inside the corners. -/
def spelledBox : Element :=
  ⟨"Box", [], [.element "coordinates" [] [.text "\n+1.5e2,-.5 3.,4E+1"]]⟩

/-- The envelope with a text for each corner. -/
def spelledCorners : Element :=
  ⟨"Envelope", [], [.element "lowerCorner" [] [.text "+1.5e2 -.5"], .comment "upper",
    .element "upperCorner" [] [.text "3. 4E+1"]]⟩

theorem spelledBox_encodes : Encodes spelledText spelledBox := by
  have shows : Shows [spelledText.lowerX.chars ++ ',' :: spelledText.lowerY.chars,
      spelledText.upperX.chars ++ ',' :: spelledText.upperY.chars]
      "\n+1.5e2,-.5 3.,4E+1".toList :=
    @Shows.next ['\n'] _ ' ' _ _ (List.all_eq_true.mp (by decide)) (by decide) (shows_word _)
  exact @Encodes.commasInside spelledText spelledBox
    ⟨"coordinates", [], [.text "\n+1.5e2,-.5 3.,4E+1"]⟩ rfl rfl rfl shows

theorem spelledCorners_encodes : Encodes spelledText spelledCorners := by
  have lower : Shows [spelledText.lowerX.chars, spelledText.lowerY.chars] "+1.5e2 -.5".toList :=
    shows_word_cons _ (by decide) (shows_word _)
  have upper : Shows [spelledText.upperX.chars, spelledText.upperY.chars] "3. 4E+1".toList :=
    shows_word_cons _ (by decide) (shows_word _)
  exact @Encodes.corners spelledText spelledCorners
    ⟨"lowerCorner", [], [.text "+1.5e2 -.5"]⟩ ⟨"upperCorner", [], [.text "3. 4E+1"]⟩ rfl rfl
    lower upper

theorem CoordinateText.exists_writes {text : CoordinateText}
    (finite : (Binary64.read? text.chars).any Binary64.isFinite = true) :
    ∃ value, text.Writes value := by
  obtain ⟨value, read, value_finite⟩ := (Option.any_eq_true _ _).mp finite
  exact ⟨value, read, value_finite⟩

theorem spelled_envelopes_agree :
    ∃ envelope, Envelope.ofElement spelledBox = .ok envelope ∧
      Envelope.ofElement spelledCorners = .ok envelope ∧ spelledText.Writes envelope := by
  obtain ⟨agree, accepted, read, -⟩ := encodings_agree spelledText
  have finite : ∀ text ∈ spelledText.texts, ∃ value, text.Writes value := by
    intro text member
    simp only [EnvelopeText.texts, List.mem_cons, List.not_mem_nil, or_false] at member
    rcases member with rfl | rfl | rfl | rfl <;>
      exact CoordinateText.exists_writes (by decide +kernel)
  obtain ⟨envelope, box⟩ := (accepted spelledBox spelledBox_encodes).mpr finite
  exact ⟨envelope, box, (agree _ _ spelledBox_encodes spelledCorners_encodes _).mp box,
    read _ _ spelledBox_encodes box⟩

end SpatialFilter
