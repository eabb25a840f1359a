/-!
# Results

How a computation that may fail comes to a value.
-/

namespace SpatialFilter

/-- A sequence of two steps succeeds exactly when both do. -/
theorem bind_eq_ok {ε α β : Type} {step : Except ε α} {next : α → Except ε β} {value : β} :
    (step >>= next) = .ok value ↔ ∃ x, step = .ok x ∧ next x = .ok value := by
  constructor
  · intro h
    cases step with
    | error e => cases h
    | ok x => exact ⟨x, rfl, h⟩
  · rintro ⟨x, rfl, h⟩
    exact h

/-- A sequence of two steps fails in the first one, or in the second behind the first. -/
theorem bind_eq_error {ε α β : Type} {step : Except ε α} {next : α → Except ε β} {error : ε} :
    (step >>= next) = .error error ↔
      step = .error error ∨ ∃ x, step = .ok x ∧ next x = .error error := by
  cases step with
  | error e => simp [bind, Except.bind]
  | ok x => simp [bind, Except.bind]

/-- A value stays the same when errors are renamed. -/
theorem mapError_eq_ok {ε δ α : Type} {wrap : δ → ε} {result : Except δ α} {value : α} :
    result.mapError wrap = .ok value ↔ result = .ok value := by
  constructor
  · intro h
    cases result with
    | ok read =>
      cases h
      rfl
    | error error => cases h
  · rintro rfl
    rfl

theorem mapError_ok {ε δ α : Type} (wrap : δ → ε) (value : α) :
    (Except.ok value).mapError wrap = .ok value := rfl

theorem mapError_error {ε δ α : Type} (wrap : δ → ε) (fault : δ) :
    (Except.error fault : Except δ α).mapError wrap = .error (wrap fault) := rfl

theorem mapError_eq_error {ε δ α : Type} {wrap : δ → ε} {result : Except δ α} {error : ε} :
    result.mapError wrap = .error error ↔ ∃ fault, result = .error fault ∧ wrap fault = error := by
  cases result with
  | ok read => simp [mapError_ok]
  | error fault => simp [mapError_error]

theorem eq_ok_of_toOption {ε α : Type} {result : Except ε α} {value : α}
    (found : result.toOption = some value) : result = .ok value := by
  cases result with
  | ok read =>
    cases found
    rfl
  | error error => cases found

/-- A run is known once its state and its result are. -/
theorem eq_ok_of_fst {σ ε α : Type} {run : σ × Except ε α} {state : σ} {value : α}
    (left : run.1 = state) (found : run.2.toOption = some value) : run = (state, .ok value) :=
  Prod.ext left (eq_ok_of_toOption found)

end SpatialFilter
