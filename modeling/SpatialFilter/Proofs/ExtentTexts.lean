import SpatialFilter.Database.Memory
import SpatialFilter.Proofs.AcceptedExtents
import SpatialFilter.Proofs.RenderedBoxes

/-!
# Texts of extents

The text of an extent has its four coordinates in brackets, in plain texts.  Each plain text is read
back as its number and holds neither a comma nor a blank, so what stands between the brackets lists
the coordinates (`listsNumbers_of_finite`).  Setting an extent from it therefore gives the extent
again, number for number, whatever extent was there (`text_gives_same_extent`).
-/

namespace SpatialFilter

open SpatialFilter.Number
open SpatialFilter.Database
open SpatialFilter.Text

theorem CoordinateText.trim_chars (text : CoordinateText) : trim text.chars = text.chars :=
  trim_of_shows (shows_word text.chars) text.some_text text.noBlank

namespace Extent

variable {extent : Extent}

/-- The plain texts of finite numbers, with commas between them, list these numbers. -/
theorem listsNumbers_of_finite {text : String} {values : List Binary64} (some_value : values ≠ [])
    (finite : ∀ value ∈ values, value.isFinite = true)
    (joined : text.toList = [','].intercalate (values.map fun value => value.text.toList)) :
    ListsNumbers text values := by
  refine ⟨_, ?_, ?_, joined.symm, ?_⟩
  · simpa using some_value
  · intro field member
    obtain ⟨value, value_mem, rfl⟩ := List.mem_map.mp member
    exact (CoordinateText.ofFinite value (finite value value_mem)).noComma
  · rw [List.forall₂_map_left_iff, List.forall₂_same]
    intro value member
    have trimmed := (CoordinateText.ofFinite value (finite value member)).trim_chars
    change trim value.text.toList = value.text.toList at trimmed
    rw [trimmed, Binary64.read_text (finite value member)]

/-- A proper extent of finite numbers has coordinates that may be set. -/
theorem areOrdered_of_isProper (proper : extent.isProper = true)
    (finite : ∀ value ∈ extent.coordinates, value.isFinite = true) :
    AreOrdered extent.xmin extent.ymin extent.xmax extent.ymax := by
  simp only [isProper, Bool.and_eq_true, Bool.not_eq_true'] at proper
  obtain ⟨⟨bounded, width⟩, height⟩ := proper
  have not_extreme : ∀ value ∈ extent.coordinates, isExtreme value = false := by
    simpa [isUnbounded] using bounded
  exact ⟨width, height, finite, not_extreme⟩

/-- What stands between the brackets in the text of a proper extent of finite numbers sets the same
extent again, with the same srid and wherever that srid resolves to the reference of the extent.
It does so on any extent, and asks only for the reference. -/
theorem text_gives_same_extent (server : Server) (earlier : List String)
    (proper : extent.isProper = true)
    (finite : ∀ value ∈ extent.coordinates, value.isFinite = true)
    (resolved : (SpatialReference.resolveSrid extent.reference.srid).result server earlier =
      .ok extent.reference) :
    ∃ inner, extent.text = "[" ++ inner ++ "]" ∧
      ∀ before : Extent,
        (setText inner extent.reference.srid).ending server earlier before =
          ⟨.ok (), extent,
            (SpatialReference.resolveSrid extent.reference.srid).queries server earlier⟩ := by
  have ordered := areOrdered_of_isProper proper finite
  let inner := extent.xmin.text ++ "," ++ extent.ymin.text ++ "," ++ extent.xmax.text ++ "," ++
    extent.ymax.text
  have lists : ListsNumbers inner [extent.xmin, extent.ymin, extent.xmax, extent.ymax] := by
    apply listsNumbers_of_finite (List.cons_ne_nil _ _) finite
    simp [inner, List.intercalate]
  refine ⟨inner, ?_, ?_⟩
  · have bounded : extent.isUnbounded = false := ordered.isUnbounded_eq_false extent.reference
    simp [text, bounded, coordinatesText, inner, String.append_assoc]
  · intro before
    rw [setText_of_listsNumbers lists]
    exact (setCoordinates_of_ordered ordered _).stored extent.reference resolved

/-- Negative zero, the smallest magnitude, a tenth and a number of 22 digits come back from the
catalog that has their reference. -/
theorem uneven_extent_text_gives_it_back :
    ∃ inner, unevenExtent.text = "[" ++ inner ++ "]" ∧
      ∀ before : Extent,
        (setText inner geographicSrid).ending (Memory.mk Memory.standardEntries []).server []
            before =
          ⟨.ok (), unevenExtent, [SpatialReference.queryBySrid geographicSrid]⟩ := by
  have proper : unevenExtent.isProper = true := by decide +kernel
  have finite : ∀ value ∈ unevenExtent.coordinates, value.isFinite = true := by decide +kernel
  have resolved : (SpatialReference.resolveSrid unevenExtent.reference.srid).result
      (Memory.mk Memory.standardEntries []).server [] = .ok unevenExtent.reference :=
    eq_ok_of_toOption (by decide +kernel)
  exact text_gives_same_extent _ [] proper finite resolved

end Extent

end SpatialFilter
