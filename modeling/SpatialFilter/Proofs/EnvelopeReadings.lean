import SpatialFilter.Proofs.CoordinateGrammar
import SpatialFilter.Proofs.NumberText

/-!
# What reading an envelope gives

However an envelope is written, reading it gives four finite numbers or a fault of what is written:
a text that is no finite number, or an element that is missing (`Envelope.ofElement_yields`).  Every
number comes out of `readNumber`, which refuses what is not finite, and no later step makes another
one.  So a box that was read can always be written as SQL (`Envelope.exists_boxLiteral`).
-/

namespace SpatialFilter

open SpatialFilter.Number
open SpatialFilter.Markup

/-- The error is about the texts or the arrangement of elements. -/
inductive FilterError.IsContentFault : FilterError → Prop
  | number (text : String) : IsContentFault (.malformedNumber text)
  | arrangement (fault : StructureFault) : IsContentFault (.structural fault)

/-- A reading gives a value with the property, or a fault of what is written. -/
structure Yields {α : Type} (good : α → Prop) (result : Except FilterError α) : Prop where
  value : ∀ value, result = .ok value → good value
  fault : ∀ error, result = .error error → error.IsContentFault

section Yields

variable {α β γ : Type} {good : α → Prop}

theorem yields_structural (fault : StructureFault) :
    Yields good (.error (.structural fault)) where
  value := nofun
  fault := by
    rintro _ ⟨⟩
    exact .arrangement fault

/-- Two readings in a row. -/
theorem yields_both {good' : β → Prop} {good'' : γ → Prop} {first : Except FilterError α}
    {second : Except FilterError β} {make : α → β → γ} (first_yields : Yields good first)
    (second_yields : Yields good' second) (makes : ∀ a b, good a → good' b → good'' (make a b)) :
    Yields good'' (do return make (← first) (← second)) where
  value := by
    intro value read
    obtain ⟨a, b, a_read, b_read, rfl⟩ := both_eq_ok_iff.mp read
    exact makes a b (first_yields.value a a_read) (second_yields.value b b_read)
  fault := by
    intro error failed
    rcases both_eq_error_iff.mp failed with first_failed | ⟨-, -, second_failed⟩
    · exact first_yields.fault error first_failed
    · exact second_yields.fault error second_failed

end Yields

structure Corner.IsFinite (corner : Corner) : Prop where
  x : corner.x.isFinite = true
  y : corner.y.isFinite = true

structure Envelope.IsFinite (envelope : Envelope) : Prop where
  lower : envelope.lower.IsFinite
  upper : envelope.upper.IsFinite

/-- A number is refused with its own text, without the blanks around it. -/
theorem readNumber_eq_error {text : List Char} {error : FilterError}
    (failed : readNumber text = .error error) :
    error = .malformedNumber (String.ofList (Text.trim text)) := by
  unfold readNumber at failed
  dsimp only at failed
  split at failed
  · split at failed
    · cases failed
    · cases failed
      rfl
  · cases failed
    rfl

theorem readNumber_yields (text : List Char) :
    Yields (fun value => value.isFinite = true) (readNumber text) where
  value := fun _ read => (readNumber_eq_ok.mp read).2
  fault := by
    intro error failed
    rw [readNumber_eq_error failed]
    exact .number _

theorem readPosition_yields (text : List Char) : Yields Corner.IsFinite (readPosition text) := by
  unfold readPosition
  split
  · exact yields_both (readNumber_yields _) (readNumber_yields _) fun _ _ x y => ⟨x, y⟩
  · exact yields_structural _

namespace Envelope

theorem ofCorners_yields (element : Element) : Yields IsFinite (ofCorners element) := by
  unfold ofCorners
  split
  · exact yields_both (readPosition_yields _) (readPosition_yields _) fun _ _ lower upper =>
      ⟨lower, upper⟩
  · exact yields_structural _

theorem axis_yields (coord : Element) (name : String) :
    Yields (fun value => value.isFinite = true) (axis coord name) := by
  unfold axis
  split
  · exact readNumber_yields _
  · exact yields_structural _

theorem cornerOfCoord_yields (coord : Element) : Yields Corner.IsFinite (cornerOfCoord coord) :=
  yields_both (axis_yields coord "X") (axis_yields coord "Y") fun _ _ x y => ⟨x, y⟩

theorem ofCoords_yields (element : Element) : Yields IsFinite (ofCoords element) := by
  unfold ofCoords
  split
  · exact yields_both (cornerOfCoord_yields _) (cornerOfCoord_yields _) fun _ _ lower upper =>
      ⟨lower, upper⟩
  · exact yields_structural _

theorem ofCoordinates_yields (text : List Char) : Yields IsFinite (ofCoordinates text) := by
  unfold ofCoordinates
  dsimp only
  split
  · exact yields_both (readPosition_yields _) (readPosition_yields _) fun _ _ lower upper =>
      ⟨lower, upper⟩
  · exact yields_structural _

theorem ofBox_yields (element : Element) : Yields IsFinite (ofBox element) := by
  unfold ofBox
  split
  · exact yields_structural _
  · split
    · exact ofCoords_yields element
    · exact ofCoordinates_yields _

/-- An element is read as an envelope of finite numbers, or its content is at fault. -/
theorem ofElement_yields (element : Element) : Yields IsFinite (ofElement element) := by
  unfold ofElement
  split
  · exact ofCorners_yields element
  · split
    · exact ofBox_yields element
    · exact yields_structural _

/-- An envelope of finite numbers can be written as SQL. -/
theorem IsFinite.exists_boxLiteral {envelope : Envelope} (finite : envelope.IsFinite)
    (srid : Int32) :
    ∃ sql, Sql.boxLiteral envelope.lower.x envelope.lower.y envelope.upper.x envelope.upper.y
      srid = .ok sql := by
  apply boxLiteral_of_finite
  simp only [List.forall_mem_cons, List.not_mem_nil, false_imp_iff, implies_true, and_true]
  exact ⟨finite.lower.x, finite.lower.y, finite.upper.x, finite.upper.y⟩

end Envelope

end SpatialFilter
