import SpatialFilter.Proofs.Fragment

/-!
# Runs of a draft

Each step of a run adds a text and may produce an error, and both can be told from the step alone
(`step_eq`).  A run therefore collects the texts in order and keeps the first error, whatever
successes, failures and missing layers are mixed in it.
-/

namespace SpatialFilter

open SpatialFilter.Markup

namespace Draft

/-- The text that a step adds to any draft: for an operator, what the same operator leaves in an
empty draft, and nothing when it does not succeed there. -/
def Step.addedText : Step → String
  | .text added => added
  | .error _ => ""
  | .operator context layer element =>
    match empty.addOperator context layer element with
    | (fresh, .ok ()) => fresh.sql
    | (_, .error _) => ""

/-- The error that a step produces: one that is noted, one that an operator ends in, or the
unsupported unit of a distance operator that succeeds.  A layer that the service does not have
is none. -/
def Step.fault? : Step → Option FilterError
  | .text _ => none
  | .error noted => some noted
  | .operator context layer element =>
    match (empty.addOperator context layer element).2 with
    | .ok () => (unsupportedUnit? element).map .unsupportedUnit
    | .error (.failed fault) => some fault
    | .error (.unconfigured _) => none

/-! ## One step -/

theorem addFragment_eq (draft : Draft) (fragment : Fragment) :
    draft.addFragment fragment =
      ⟨draft.sql ++ fragment.sql,
        draft.error.or (fragment.unsupportedUnit.map .unsupportedUnit)⟩ := by
  unfold addFragment
  cases fragment.unsupportedUnit with
  | none => simp [append]
  | some unit => cases error : draft.error <;> simp [append, note, error]

theorem note_eq (draft : Draft) (error : FilterError) :
    draft.note error = ⟨draft.sql, draft.error.or (some error)⟩ := by
  cases slot : draft.error <;> simp [note, slot]

/-- The text and the error of a step do not depend on the draft, and neither does its result. -/
theorem step_eq (draft : Draft) (step : Step) :
    draft.step step =
      (⟨draft.sql ++ step.addedText, draft.error.or step.fault?⟩, (empty.step step).2) := by
  cases step with
  | text added => simp [Draft.step, append, Step.addedText, Step.fault?]
  | error noted => simp [Draft.step, note_eq, Step.addedText, Step.fault?]
  | operator context layer element =>
    simp only [Draft.step, Step.addedText, Step.fault?, addOperator_eq]
    cases compiled : context.fragment layer element with
    | ok fragment =>
      simp only [addFragment_eq, fragment_unit compiled]
      simp [empty]
    | error interruption =>
      cases interruption with
      | failed error => simp [note_eq]
      | unconfigured name => simp

/-! ## Whole runs -/

/-- A run adds the texts of its steps one after the other, and notes the first of their errors
unless one was noted before. -/
theorem afterAll_eq (draft : Draft) (steps : List Step) :
    draft.afterAll steps =
      ⟨draft.sql ++ String.join (steps.map Step.addedText),
        draft.error.or (steps.findSome? Step.fault?)⟩ := by
  induction steps generalizing draft with
  | nil => simp [afterAll]
  | cons step rest ih =>
    have later := ih (draft.step step).1
    rw [step_eq] at later
    change (draft.step step).1.afterAll rest = _
    rw [step_eq, later]
    cases fault : step.fault? with
    | none => simp [fault, String.append_assoc]
    | some error => simp [fault, String.append_assoc]

theorem afterAll_append (draft : Draft) (before after : List Step) :
    draft.afterAll (before ++ after) = (draft.afterAll before).afterAll after := by
  simp [afterAll, List.foldl_append]

/-- An error in a draft stays there through every further run. -/
theorem afterAll_error {draft : Draft} {error : FilterError} (noted : draft.error = some error)
    (steps : List Step) : (draft.afterAll steps).error = some error := by
  simp [afterAll_eq, noted]

/-- What a run leaves of an empty draft.  Its text is made of the added texts in order, its error
is the first one produced, and the text is handed out exactly when no step produced an error.  At
every point of the run a step ends as it would on an empty draft, and an error that is there is
neither cleared nor replaced. -/
theorem run_collects_texts_and_first_error (steps : List Step) :
    (empty.afterAll steps).sql = String.join (steps.map Step.addedText) ∧
      (empty.afterAll steps).error = steps.findSome? Step.fault? ∧
      (empty.afterAll steps).predicate =
        (match steps.findSome? Step.fault? with
          | none => .ok (String.join (steps.map Step.addedText))
          | some error => .error error) ∧
      ∀ before step after, steps = before ++ step :: after →
        ((empty.afterAll before).step step).2 = (empty.step step).2 ∧
          ∀ error, (empty.afterAll before).error = some error →
            (empty.afterAll steps).error = some error := by
  have sql : (empty.afterAll steps).sql = String.join (steps.map Step.addedText) := by
    simp [afterAll_eq, empty]
  have error : (empty.afterAll steps).error = steps.findSome? Step.fault? := by
    simp [afterAll_eq, empty]
  refine ⟨sql, error, ?_, ?_⟩
  · rw [predicate, sql, error]
    cases steps.findSome? Step.fault? <;> rfl
  · intro before step after split
    refine ⟨by rw [step_eq], ?_⟩
    intro first noted
    rw [split, afterAll_append]
    exact afterAll_error noted _

end Draft

end SpatialFilter
