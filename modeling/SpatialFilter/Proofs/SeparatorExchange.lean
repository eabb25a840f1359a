import Mathlib.Logic.Function.Basic
import SpatialFilter.Proofs.Numerals

/-!
# The exchange of separators

Where a comma comes first, the commas and the spaces of a coordinate text change places.  The run of
numeral characters in front of that comma has neither of them in it, so that after the exchange the
run ends in a space, whatever follows.  A text is therefore exchanged at most once, and exchanging
again gives it back (`exchange_is_idempotent_and_lossless`).
-/

namespace SpatialFilter

theorem swapSeparator_of_ne {c : Char} (space : c ≠ ' ') (comma : c ≠ ',') :
    swapSeparator c = c := by
  simp [swapSeparator, space, comma]

/-- Exchanging twice changes nothing. -/
theorem swapSeparator_involutive : Function.Involutive swapSeparator := by
  intro c
  by_cases space : c = ' '
  · subst space
    rfl
  by_cases comma : c = ','
  · subst comma
    rfl
  · rw [swapSeparator_of_ne space comma, swapSeparator_of_ne space comma]

theorem map_swapSeparator_map (text : List Char) :
    (text.map swapSeparator).map swapSeparator = text := by
  rw [List.map_map, swapSeparator_involutive.comp_self, List.map_id]

/-- Neither separator occurs in a run of numeral characters. -/
theorem map_swapSeparator_of_numeral {run : List Char}
    (inside : ∀ c ∈ run, isNumeralChar c = true) : run.map swapSeparator = run := by
  have kept : ∀ c ∈ run, swapSeparator c = c := by
    intro c member
    apply swapSeparator_of_ne
    · rintro rfl
      cases inside ' ' member
    · rintro rfl
      cases inside ',' member
  rw [List.map_congr_left kept, List.map_id']

/-- After the exchange, the space that was the first comma comes before every comma. -/
theorem commaLeads_map_swapSeparator {text : List Char} (leads : commaLeads text = true) :
    commaLeads (text.map swapSeparator) = false := by
  obtain ⟨run, rest, -, inside, rfl⟩ := commaLeads_eq_true_iff.mp leads
  have exchanged : (run ++ ',' :: rest).map swapSeparator =
      run ++ ' ' :: rest.map swapSeparator := by
    rw [List.map_append, map_swapSeparator_of_numeral inside]
    rfl
  have free : ',' ∉ run := by
    intro member
    cases inside ',' member
  rw [exchanged]
  exact commaLeads_of_space free

/-- Normalizing twice is normalizing once.  A text whose separators were exchanged is left alone
afterwards, and exchanging them back gives the text that was there before. -/
theorem exchange_is_idempotent_and_lossless (text : List Char) :
    normalizeCoordinates (normalizeCoordinates text) = normalizeCoordinates text ∧
      (commaLeads text = true →
        commaLeads (normalizeCoordinates text) = false ∧
          (normalizeCoordinates text).map swapSeparator = text) := by
  by_cases leads : commaLeads text = true
  · have exchanged : normalizeCoordinates text = text.map swapSeparator := if_pos leads
    have left_alone := commaLeads_map_swapSeparator leads
    rw [exchanged]
    refine ⟨?_, fun _ => ⟨left_alone, map_swapSeparator_map text⟩⟩
    rw [normalizeCoordinates, left_alone, if_neg (by decide)]
  · have kept : normalizeCoordinates text = text := if_neg leads
    exact ⟨by rw [kept, kept], fun leading => absurd leading leads⟩

/-- Whatever follows the first separator may be out of order. -/
example : normalizeCoordinates "1,, 2 ,é".toList = "1  ,2, é".toList := by decide

end SpatialFilter
