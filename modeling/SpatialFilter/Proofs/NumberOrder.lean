import SpatialFilter.Number.Binary64

/-!
# The order of floating-point numbers

Every value but NaN has a place, and values are compared by their places.  Any two numbers can be
compared, and two of one place are the same but for the sign of zero (`eq_or_zeros_of_place`).  The
smaller and the larger of two values are the ends of whatever numbers are among the two
(`spans_smaller_larger`): NaN is passed over beside a number.
-/

namespace SpatialFilter.Number.Binary64

variable {x y z : Binary64}

/-! ## Places -/

theorem place_eq_none_iff : x.place? = none ↔ x = .nan := by
  cases x with
  | nan => simp [place?]
  | ranked negative rank rank_le => cases negative <;> simp [place?]

theorem exists_place (number : x ≠ .nan) : ∃ place, x.place? = some place :=
  Option.ne_none_iff_exists'.mp (mt place_eq_none_iff.mp number)

theorem number_of_place {place : Int} (x_place : x.place? = some place) : x ≠ .nan := by
  rintro rfl
  cases x_place

theorem number_of_isFinite (finite : x.isFinite = true) : x ≠ .nan := by
  rintro rfl
  cases finite

/-- Two values of one place are the same, but for the sign of zero. -/
theorem eq_or_zeros_of_place (same : x.place? = y.place?) :
    x = y ∨ x.place? = some 0 ∧ y.place? = some 0 := by
  cases x with
  | nan => exact .inl (place_eq_none_iff.mp same.symm).symm
  | ranked negative rank rank_le =>
    cases y with
    | nan => exact .inl (place_eq_none_iff.mp same)
    | ranked negative' rank' rank_le' =>
      -- Ranks of one sign have places of their own, and opposite signs meet only at zero.
      by_cases signs : negative = negative'
      · subst signs
        have ranks : rank = rank' := by
          cases negative <;> simp only [place?, Option.some.injEq] at same <;> omega
        subst ranks
        exact .inl rfl
      · have zeros : rank = 0 ∧ rank' = 0 := by
          cases negative <;> cases negative' <;> simp [place?] at same signs <;> omega
        obtain ⟨rfl, rfl⟩ := zeros
        cases negative <;> cases negative' <;> exact .inr ⟨rfl, rfl⟩

/-! ## Comparisons -/

theorem le_iff : x.le y = true ↔ ∃ a b, x.place? = some a ∧ y.place? = some b ∧ a ≤ b := by
  unfold le
  cases x.place? <;> cases y.place? <;> simp

theorem lt_iff : x.lt y = true ↔ ∃ a b, x.place? = some a ∧ y.place? = some b ∧ a < b := by
  unfold lt
  cases x.place? <;> cases y.place? <;> simp

/-- NaN is not compared with anything. -/
theorem number_of_le (below : x.le y = true) : x ≠ .nan ∧ y ≠ .nan := by
  obtain ⟨a, b, x_place, y_place, -⟩ := le_iff.mp below
  exact ⟨number_of_place x_place, number_of_place y_place⟩

theorem le_of_lt (below : x.lt y = true) : x.le y = true := by
  obtain ⟨a, b, x_place, y_place, less⟩ := lt_iff.mp below
  exact le_iff.mpr ⟨a, b, x_place, y_place, Int.le_of_lt less⟩

theorem le_refl (number : x ≠ .nan) : x.le x = true := by
  obtain ⟨a, x_place⟩ := exists_place number
  exact le_iff.mpr ⟨a, a, x_place, x_place, Int.le_refl a⟩

theorem le_trans (first : x.le y = true) (second : y.le z = true) : x.le z = true := by
  obtain ⟨a, b, x_place, y_place, less⟩ := le_iff.mp first
  obtain ⟨b', c, y_place', z_place, less'⟩ := le_iff.mp second
  rw [y_place] at y_place'
  cases y_place'
  exact le_iff.mpr ⟨a, c, x_place, z_place, Int.le_trans less less'⟩

theorem lt_of_lt_of_le (first : x.lt y = true) (second : y.le z = true) : x.lt z = true := by
  obtain ⟨a, b, x_place, y_place, less⟩ := lt_iff.mp first
  obtain ⟨b', c, y_place', z_place, less'⟩ := le_iff.mp second
  rw [y_place] at y_place'
  cases y_place'
  exact lt_iff.mpr ⟨a, c, x_place, z_place, Int.lt_of_lt_of_le less less'⟩

theorem lt_of_le_of_lt (first : x.le y = true) (second : y.lt z = true) : x.lt z = true := by
  obtain ⟨a, b, x_place, y_place, less⟩ := le_iff.mp first
  obtain ⟨b', c, y_place', z_place, less'⟩ := lt_iff.mp second
  rw [y_place] at y_place'
  cases y_place'
  exact lt_iff.mpr ⟨a, c, x_place, z_place, Int.lt_of_le_of_lt less less'⟩

/-- Of two numbers, the first is smaller unless the second is at most as large. -/
theorem lt_iff_not_le (x_number : x ≠ .nan) (y_number : y ≠ .nan) :
    x.lt y = true ↔ ¬ y.le x = true := by
  obtain ⟨a, x_place⟩ := exists_place x_number
  obtain ⟨b, y_place⟩ := exists_place y_number
  simp [lt, le, x_place, y_place]

/-- Two values, each at most the other, have the same place. -/
theorem place_eq_of_le (rises : x.le y = true) (falls : y.le x = true) :
    x.place? = y.place? := by
  obtain ⟨a, b, x_place, y_place, less⟩ := le_iff.mp rises
  obtain ⟨b', a', y_place', x_place', more⟩ := le_iff.mp falls
  rw [x_place] at x_place'
  rw [y_place] at y_place'
  cases x_place'
  cases y_place'
  rw [x_place, y_place, Int.le_antisymm less more]

/-! ## The smaller and the larger value -/

theorem smaller_of_number (number : x ≠ .nan) : x.smaller y = if y.le x then y else x := by
  cases x with
  | nan => exact absurd rfl number
  | ranked negative rank rank_le => rfl

theorem larger_of_number (number : x ≠ .nan) : x.larger y = if x.le y then y else x := by
  cases x with
  | nan => exact absurd rfl number
  | ranked negative rank rank_le => rfl

theorem smaller_nan (x : Binary64) : x.smaller .nan = x := by
  cases x with
  | nan => rfl
  | ranked negative rank rank_le => cases negative <;> rfl

theorem larger_nan (x : Binary64) : x.larger .nan = x := by
  cases x with
  | nan => rfl
  | ranked negative rank rank_le => cases negative <;> rfl

/-- The two ends are the smaller and the larger one of the values: each end is one of the values,
and every value that is a number lies between the ends. -/
structure Spans (low high x y : Binary64) : Prop where
  low_given : low = x ∨ low = y
  high_given : high = x ∨ high = y
  low_le_first : x ≠ .nan → low.le x = true
  low_le_second : y ≠ .nan → low.le y = true
  first_le_high : x ≠ .nan → x.le high = true
  second_le_high : y ≠ .nan → y.le high = true

theorem spans_beside_nan (x : Binary64) : Spans x x x .nan :=
  ⟨.inl rfl, .inl rfl, le_refl, fun number => absurd rfl number, le_refl,
    fun number => absurd rfl number⟩

theorem spans_behind_nan (x : Binary64) : Spans x x .nan x :=
  ⟨.inr rfl, .inr rfl, fun number => absurd rfl number, le_refl,
    fun number => absurd rfl number, le_refl⟩

/-- Whatever the two values are, the smaller and the larger one are their ends. -/
theorem spans_smaller_larger (x y : Binary64) : Spans (x.smaller y) (x.larger y) x y := by
  by_cases x_number : x = .nan
  · subst x_number
    exact spans_behind_nan y
  by_cases y_number : y = .nan
  · subst y_number
    rw [smaller_nan, larger_nan]
    exact spans_beside_nan x
  rw [smaller_of_number x_number, larger_of_number x_number]
  have x_le := le_refl x_number
  have y_le := le_refl y_number
  by_cases falls : y.le x = true
  · rw [if_pos falls]
    by_cases rises : x.le y = true
    · rw [if_pos rises]
      exact ⟨.inr rfl, .inr rfl, fun _ => falls, fun _ => y_le, fun _ => rises, fun _ => y_le⟩
    · rw [if_neg rises]
      exact ⟨.inr rfl, .inl rfl, fun _ => falls, fun _ => y_le, fun _ => x_le, fun _ => falls⟩
  · have rises := le_of_lt ((lt_iff_not_le x_number y_number).mpr falls)
    rw [if_neg falls, if_pos rises]
    exact ⟨.inl rfl, .inr rfl, fun _ => x_le, fun _ => rises, fun _ => rises, fun _ => y_le⟩

namespace Spans

variable {low high low' high' : Binary64}

theorem symm (spans : Spans low high x y) : Spans low high y x :=
  ⟨spans.low_given.symm, spans.high_given.symm, spans.low_le_second, spans.low_le_first,
    spans.second_le_high, spans.first_le_high⟩

/-- The ends are in order, and NaN only where both values are. -/
theorem low_le_high (spans : Spans low high x y) (some_number : x ≠ .nan ∨ y ≠ .nan) :
    low.le high = true := by
  rcases some_number with number | number
  · exact le_trans (spans.low_le_first number) (spans.first_le_high number)
  · exact le_trans (spans.low_le_second number) (spans.second_le_high number)

theorem low_le (spans : Spans low high x y) {value : Binary64} (given : value = x ∨ value = y)
    (number : value ≠ .nan) : low.le value = true := by
  rcases given with rfl | rfl
  · exact spans.low_le_first number
  · exact spans.low_le_second number

theorem le_high (spans : Spans low high x y) {value : Binary64} (given : value = x ∨ value = y)
    (number : value ≠ .nan) : value.le high = true := by
  rcases given with rfl | rfl
  · exact spans.first_le_high number
  · exact spans.second_le_high number

/-- Two values have one pair of ends, but for the sign of zero. -/
theorem place_eq (spans : Spans low high x y) (others : Spans low' high' x y) :
    low.place? = low'.place? ∧ high.place? = high'.place? := by
  by_cases some_number : x ≠ .nan ∨ y ≠ .nan
  · obtain ⟨low_number, high_number⟩ := number_of_le (spans.low_le_high some_number)
    obtain ⟨low_number', high_number'⟩ := number_of_le (others.low_le_high some_number)
    constructor
    · exact place_eq_of_le (spans.low_le others.low_given low_number')
        (others.low_le spans.low_given low_number)
    · exact place_eq_of_le (others.le_high spans.high_given high_number)
        (spans.le_high others.high_given high_number')
  · have all_nan : ∀ {value}, value = x ∨ value = y → value = .nan := by
      rintro value (rfl | rfl)
      · exact Decidable.not_not.mp fun number => some_number (.inl number)
      · exact Decidable.not_not.mp fun number => some_number (.inr number)
    rw [all_nan spans.low_given, all_nan spans.high_given, all_nan others.low_given,
      all_nan others.high_given]
    exact ⟨rfl, rfl⟩

/-- Where no zeros of both signs meet, two values have one pair of ends. -/
theorem eq_of_zeros_agree (spans : Spans low high x y) (others : Spans low' high' x y)
    (zeros_agree : x.place? = some 0 → y.place? = some 0 → x = y) :
    low = low' ∧ high = high' := by
  have apart : x.place? = y.place? → x = y := by
    intro same
    rcases eq_or_zeros_of_place same with equal | ⟨x_zero, y_zero⟩
    · exact equal
    · exact zeros_agree x_zero y_zero
  have one : ∀ {value value'}, value = x ∨ value = y → value' = x ∨ value' = y →
      value.place? = value'.place? → value = value' := by
    rintro value value' (rfl | rfl) (rfl | rfl) same
    · rfl
    · exact apart same
    · exact (apart same.symm).symm
    · rfl
  obtain ⟨low_place, high_place⟩ := spans.place_eq others
  exact ⟨one spans.low_given others.low_given low_place,
    one spans.high_given others.high_given high_place⟩

end Spans

end SpatialFilter.Number.Binary64
