import Mathlib.Algebra.Group.Nat.Defs
import SpatialFilter.Number.Binary64

/-!
# The nearest rank of a fraction

The rank nearest to a fraction of units depends on the value of the fraction only
(`nearestRank_scale`), and the magnitude of a rank is nearest to that rank (`nearestRank_units`).  A
fraction below half a unit has the rank of zero, and one beyond every finite magnitude that of
infinity.
-/

namespace SpatialFilter.Number

/-! ## Fractions of one value -/

theorem roundQuotient_scale {factor : Nat} (positive : 0 < factor) (numerator denominator : Nat) :
    roundQuotient (numerator * factor) (denominator * factor) =
      roundQuotient numerator denominator := by
  have twice : 2 * (numerator % denominator * factor) = 2 * (numerator % denominator) * factor :=
    (Nat.mul_assoc ..).symm
  unfold roundQuotient
  dsimp only
  rw [Nat.mul_div_mul_right _ _ positive, Nat.mul_mod_mul_right, twice]
  simp only [Nat.mul_lt_mul_right positive]

/-- The nearest rank depends on the quotient only. -/
theorem nearestRank_scale {factor : Nat} (positive : 0 < factor) (numerator denominator : Nat) :
    nearestRank (numerator * factor) (denominator * factor) =
      nearestRank numerator denominator := by
  have spaced : ∀ spacing, denominator * factor * Nat.pow 2 spacing =
      denominator * Nat.pow 2 spacing * factor := fun spacing => Nat.mul_right_comm ..
  unfold nearestRank
  dsimp only
  rw [Nat.mul_div_mul_right _ _ positive, spaced, roundQuotient_scale positive]

/-! ## Whole units -/

theorem roundQuotient_of_multiple {denominator : Nat} (positive : 0 < denominator)
    (quotient : Nat) : roundQuotient (quotient * denominator) denominator = quotient := by
  unfold roundQuotient
  dsimp only
  rw [Nat.mul_mod_left, Nat.mul_div_cancel _ positive, Nat.mul_zero, if_pos positive]

/-- Magnitudes below two to the 53rd power are as many units as their ranks say. -/
theorem nearestRank_of_unspaced {rank : Nat} (unspaced : rank < 2 ^ 53) :
    nearestRank rank 1 = min rank infinityRank := by
  have spacing : rank.log2 - 52 = 0 := by
    by_cases zero : rank = 0
    · subst zero
      rfl
    · have short : rank.log2 < 53 := (Nat.log2_lt zero).mpr unspaced
      omega
  have one : 1 * Nat.pow 2 0 = 1 := rfl
  have exact_units := roundQuotient_of_multiple Nat.one_pos rank
  rw [Nat.mul_one] at exact_units
  unfold nearestRank
  dsimp only
  rw [Nat.div_one, spacing, one, exact_units, Nat.zero_mul, Nat.zero_add]

/-- A significand of 53 bits keeps them all: the spacing is that of its last bit. -/
theorem nearestRank_of_spaced {significand spacing : Nat} (low : 2 ^ 52 ≤ significand)
    (high : significand < 2 ^ 53) :
    nearestRank (significand * 2 ^ spacing) 1 =
      min (spacing * ranksPerExponent + significand) infinityRank := by
  have power_pos : 0 < 2 ^ spacing := Nat.two_pow_pos spacing
  have some_units : significand * 2 ^ spacing ≠ 0 :=
    Nat.mul_ne_zero (by omega) (Nat.ne_of_gt power_pos)
  have bits : (significand * 2 ^ spacing).log2 = 52 + spacing := by
    rw [Nat.log2_eq_iff some_units, Nat.add_right_comm, Nat.pow_add, Nat.pow_add]
    exact ⟨Nat.mul_le_mul_right _ low, Nat.mul_lt_mul_of_pos_right high power_pos⟩
  have places : (significand * 2 ^ spacing).log2 - 52 = spacing := by omega
  have exact_units := roundQuotient_of_multiple power_pos significand
  unfold nearestRank
  dsimp only
  rw [Nat.div_one, places, Nat.one_mul]
  exact congrArg (fun units => min (spacing * ranksPerExponent + units) infinityRank) exact_units

/-- The magnitude of a rank is nearest to that rank. -/
theorem nearestRank_units {rank : Nat} (rank_le : rank ≤ infinityRank) :
    nearestRank (units rank) 1 = rank := by
  have ranks : ranksPerExponent = 2 ^ 52 := rfl
  unfold units
  by_cases lowest : doublings rank = 0
  · have unspaced : rank < 2 ^ 53 := by
      unfold doublings ranksPerExponent at lowest
      omega
    rw [lowest, Nat.zero_mul, Nat.sub_zero]
    have one : rank * Nat.pow 2 0 = rank := Nat.mul_one rank
    rw [one, nearestRank_of_unspaced unspaced, Nat.min_eq_left rank_le]
  · -- The exponent is at least two, and what is left of the rank starts with the implicit bit.
    have parts := Nat.div_add_mod rank ranksPerExponent
    have lower := Nat.mod_lt rank (show 0 < ranksPerExponent by decide)
    have exponent : rank / ranksPerExponent = doublings rank + 1 := by
      unfold doublings at lowest ⊢
      omega
    rw [exponent, Nat.mul_add, Nat.mul_one, Nat.mul_comm] at parts
    have low : 2 ^ 52 ≤ rank - doublings rank * ranksPerExponent := by omega
    have high : rank - doublings rank * ranksPerExponent < 2 ^ 53 := by omega
    have whole : doublings rank * ranksPerExponent +
        (rank - doublings rank * ranksPerExponent) = rank := by omega
    have spaced := @nearestRank_of_spaced _ (doublings rank) low high
    rw [whole, Nat.min_eq_left rank_le] at spaced
    exact spaced

/-! ## Out of range -/

/-- Less than half a unit is nearest to zero. -/
theorem nearestRank_of_tiny {numerator denominator : Nat} (tiny : 2 * numerator < denominator) :
    nearestRank numerator denominator = 0 := by
  have below : numerator < denominator := by omega
  have one : denominator * Nat.pow 2 0 = denominator := Nat.mul_one denominator
  unfold nearestRank
  dsimp only
  rw [Nat.div_eq_of_lt below, Nat.log2_zero, Nat.zero_sub, one]
  unfold roundQuotient
  dsimp only
  rw [Nat.mod_eq_of_lt below, if_pos tiny, Nat.div_eq_of_lt below]
  rfl

theorem quotient_le_roundQuotient (numerator denominator : Nat) :
    numerator / denominator ≤ roundQuotient numerator denominator := by
  unfold roundQuotient
  dsimp only
  split
  · exact Nat.le_refl _
  · split
    · exact Nat.le_succ _
    · exact Nat.le_add_right ..

/-- What needs more than 2098 bits as a number of units is nearest to infinity. -/
theorem nearestRank_of_huge {numerator denominator bits : Nat} (many : 2098 ≤ bits)
    (huge : 2 ^ bits ≤ numerator / denominator) :
    nearestRank numerator denominator = infinityRank := by
  have some_units : numerator / denominator ≠ 0 := by
    have positive := Nat.two_pow_pos bits
    omega
  have long : bits ≤ (numerator / denominator).log2 := (Nat.le_log2 some_units).mpr huge
  unfold nearestRank
  dsimp only
  generalize spacing_eq : (numerator / denominator).log2 - 52 = spacing
  have kept : 2 ^ 52 ≤ numerator / denominator / 2 ^ spacing := by
    rw [Nat.le_div_iff_mul_le (Nat.two_pow_pos spacing), ← Nat.pow_add]
    have places : 52 + spacing = (numerator / denominator).log2 := by omega
    rw [places]
    exact Nat.log2_self_le some_units
  rw [Nat.div_div_eq_div_mul] at kept
  have rounded := quotient_le_roundQuotient numerator (denominator * Nat.pow 2 spacing)
  have spaced : 2046 * ranksPerExponent ≤ spacing * ranksPerExponent :=
    Nat.mul_le_mul_right _ (by omega)
  have last : infinityRank = 2046 * ranksPerExponent + 2 ^ 52 := rfl
  apply Nat.min_eq_right
  rw [last]
  exact Nat.add_le_add spaced (Nat.le_trans kept rounded)

end SpatialFilter.Number
