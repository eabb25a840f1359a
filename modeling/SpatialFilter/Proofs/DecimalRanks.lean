import SpatialFilter.Number.Shortest
import SpatialFilter.Proofs.IntegerTexts
import SpatialFilter.Proofs.NearestRanks

/-!
# Ranks of decimals

A decimal has the rank nearest to its value: the bounds that keep its powers of ten small make no
difference (`Decimal.rank_eq_nearestRank`).  So the rank stays when zeros are moved between the
significand and the exponent (`Decimal.rank_shift`), and the shortest decimal of a finite magnitude
reads back to it (`rank_shortest`), on whichever grid it was found.
-/

namespace SpatialFilter.Number

/-! ## Bounds of the powers of ten -/

-- The bound and the unit are kept as variables, so that no such power is ever computed.

theorem unitsPerOne_eq {places : Nat} (unit : 1074 = places) : unitsPerOne = 2 ^ places := by
  unfold unitsPerOne
  rw [unit]
  rfl

theorem two_pow_le_ten_pow (places : Nat) : 2 ^ (3 * places) ≤ 10 ^ places := by
  rw [Nat.pow_mul]
  exact Nat.pow_le_pow_left (by decide) places

/-- From the upper bound on, a decimal is beyond every finite magnitude. -/
theorem nearestRank_of_upper {significand places : Nat} (positive : 0 < significand)
    (many : 400 ≤ places) :
    nearestRank (significand * 10 ^ places * unitsPerOne) 1 = infinityRank := by
  obtain ⟨low, unit⟩ : ∃ low, 1074 = low := ⟨_, rfl⟩
  have long : 2098 ≤ 3 * places + low := by omega
  apply nearestRank_of_huge long
  rw [Nat.div_one]
  calc 2 ^ (3 * places + low) = 1 * 2 ^ (3 * places) * unitsPerOne := by
        rw [unitsPerOne_eq unit, Nat.one_mul, Nat.pow_add]
    _ ≤ significand * 10 ^ places * unitsPerOne :=
        Nat.mul_le_mul_right _ (Nat.mul_le_mul positive (two_pow_le_ten_pow places))

/-- From the lower bound on, a decimal is less than half a unit. -/
theorem nearestRank_of_lower {significand spare places : Nat} (some_spare : 400 ≤ spare)
    (many : (toDigits significand).length + spare ≤ places) :
    nearestRank (significand * unitsPerOne) (10 ^ places) = 0 := by
  have short : significand < 10 ^ (toDigits significand).length := by
    have some_digits := List.length_pos_iff.mpr (toDigits_ne_nil significand)
    exact (Nat.length_toDigits_le_iff (by decide) some_digits).mp (Nat.le_refl _)
  have half : 2 * unitsPerOne ≤ 10 ^ spare := by
    obtain ⟨low, unit⟩ : ∃ low, 1074 = low := ⟨_, rfl⟩
    have longer : low + 1 ≤ 3 * spare := by omega
    rw [unitsPerOne_eq unit, ← Nat.pow_succ']
    exact Nat.le_trans (Nat.pow_le_pow_right (by decide) longer) (two_pow_le_ten_pow spare)
  apply nearestRank_of_tiny
  calc 2 * (significand * unitsPerOne) = significand * (2 * unitsPerOne) := Nat.mul_left_comm ..
    _ ≤ significand * 10 ^ spare := Nat.mul_le_mul_left _ half
    _ < 10 ^ (toDigits significand).length * 10 ^ spare :=
      Nat.mul_lt_mul_of_pos_right short (Nat.pow_pos (by decide))
    _ = 10 ^ ((toDigits significand).length + spare) := (Nat.pow_add ..).symm
    _ ≤ 10 ^ places := Nat.pow_le_pow_right (by decide) many

namespace Decimal

/-- A decimal has the rank nearest to its value. -/
theorem rank_eq_nearestRank (decimal : Decimal) :
    decimal.rank =
      nearestRank (decimal.significand * 10 ^ decimal.exponent.toNat * unitsPerOne)
        (10 ^ (-decimal.exponent).toNat) := by
  obtain ⟨significand, exponent⟩ := decimal
  unfold rank
  dsimp only
  generalize most_eq : 400 = most
  simp only [Nat.pow_eq]
  by_cases zero : significand = 0
  · subst zero
    rw [Nat.zero_mul, Nat.zero_mul, Nat.zero_mul, Nat.zero_mul]
    have none_up : ∀ places, nearestRank 0 (10 ^ places) = 0 := fun places =>
      nearestRank_of_tiny (Nat.pow_pos (by decide))
    rw [none_up, none_up]
  · have positive : 0 < significand := Nat.pos_of_ne_zero zero
    by_cases upper : most < exponent.toNat
    · have no_down : (-exponent).toNat = 0 := by omega
      have enough : 400 ≤ exponent.toNat := by omega
      rw [no_down, Nat.zero_min, Nat.min_eq_right (Nat.le_of_lt upper), Nat.pow_zero,
        nearestRank_of_upper positive (Nat.le_of_eq most_eq), nearestRank_of_upper positive enough]
    · rw [Nat.min_eq_left (Nat.le_of_not_lt upper)]
      by_cases lower : (toDigits significand).length + most < (-exponent).toNat
      · have no_up : exponent.toNat = 0 := by omega
        rw [no_up, Nat.min_eq_right (Nat.le_of_lt lower), Nat.pow_zero, Nat.mul_one,
          nearestRank_of_lower (Nat.le_of_eq most_eq) (Nat.le_of_lt lower),
          nearestRank_of_lower (Nat.le_of_eq most_eq) (Nat.le_refl _)]
      · rw [Nat.min_eq_left (Nat.le_of_not_lt lower)]

/-! ## Decimals of one value -/

/-- Zeros may be moved from the significand to the exponent. -/
theorem rank_shift (significand places : Nat) (exponent : Int) :
    rank ⟨significand * 10 ^ places, exponent⟩ = rank ⟨significand, exponent + places⟩ := by
  rw [rank_eq_nearestRank, rank_eq_nearestRank]
  dsimp only
  -- The places that both sides of the first fraction have and those of the second lack.
  let common := min places (-exponent).toNat
  have above : places + exponent.toNat = (exponent + places).toNat + common := by omega
  have below : (-exponent).toNat = (-(exponent + places)).toNat + common := by omega
  have scaled : significand * 10 ^ places * 10 ^ exponent.toNat * unitsPerOne =
      significand * 10 ^ (exponent + places).toNat * unitsPerOne * 10 ^ common := by
    rw [Nat.mul_assoc significand, ← Nat.pow_add, above, Nat.pow_add, ← Nat.mul_assoc,
      Nat.mul_right_comm]
  rw [scaled, below, Nat.pow_add]
  exact nearestRank_scale (Nat.pow_pos (by decide)) _ _

theorem exists_zeros (digits : List Char) :
    ∃ count, digits = (digits.reverse.dropWhile fun c => c == '0').reverse ++
      List.replicate count '0' := by
  have zeros : ∀ c ∈ digits.reverse.takeWhile fun c => c == '0', c = '0' := by
    intro c member
    simpa using List.all_eq_true.mp List.all_takeWhile c member
  refine ⟨(digits.reverse.takeWhile fun c => c == '0').length, ?_⟩
  rw [← List.reverse_replicate, ← List.eq_replicate_of_mem zeros, ← List.reverse_append,
    List.takeWhile_append_dropWhile, List.reverse_reverse]

/-- The zeros at the end of a significand count as much in the exponent. -/
theorem rank_stripped (decimal : Decimal) : decimal.stripped.rank = decimal.rank := by
  obtain ⟨significand, exponent⟩ := decimal
  unfold stripped
  dsimp only
  obtain ⟨count, digits_eq⟩ := exists_zeros (toDigits significand)
  generalize ((toDigits significand).reverse.dropWhile fun c => c == '0').reverse = kept
    at digits_eq ⊢
  have value : significand = ofDigits kept * 10 ^ count := by
    rw [← ofDigits_toDigits significand, digits_eq, ofDigits_append, ofDigits_zeros,
      List.length_replicate, Nat.add_zero]
  have dropped : (toDigits significand).length - kept.length = count := by
    rw [digits_eq, List.length_append, List.length_replicate, Nat.add_sub_cancel_left]
  rw [dropped, value]
  exact (rank_shift _ _ _).symm

/-- A multiple of a negative power of two, written with the same negative power of ten. -/
theorem rank_of_units {places : Nat} {exponent : Int} (unit : unitsPerOne = 2 ^ places)
    (negative : exponent = -places) (count : Nat) :
    rank ⟨count * 5 ^ places, exponent⟩ = nearestRank count 1 := by
  have no_up : exponent.toNat = 0 := by omega
  have down : (-exponent).toNat = places := by omega
  have tens : 5 ^ places * 2 ^ places = 1 * 10 ^ places := by
    rw [← Nat.mul_pow, Nat.one_mul]
  have scaled := @nearestRank_scale (10 ^ places) (Nat.pow_pos (by decide)) count 1
  rw [rank_eq_nearestRank]
  dsimp only
  rw [no_up, down, unit, Nat.pow_zero, Nat.mul_one, Nat.mul_assoc, tens, Nat.one_mul]
  rwa [Nat.one_mul] at scaled

end Decimal

/-! ## The shortest decimal -/

variable {rank : Nat}

/-- The exact expansion of a magnitude reads back to it. -/
theorem rank_exactDecimal (rank_le : rank ≤ infinityRank) : (exactDecimal rank).rank = rank := by
  obtain ⟨places, unit⟩ : ∃ places, 1074 = places := ⟨_, rfl⟩
  have negative : (-1074 : Int) = -places := by omega
  have units_rank := Decimal.rank_of_units (unitsPerOne_eq unit) negative (units rank)
  unfold exactDecimal
  rw [unit]
  exact units_rank.trans (nearestRank_units rank_le)

theorem rank_gridNeighbour {tie : Tie} {exponent : Int} {decimal : Decimal}
    (found : gridNeighbour? tie rank exponent = some decimal) : decimal.rank = rank := by
  unfold gridNeighbour? at found
  dsimp only at found
  split at found
  next low =>
    cases found
    exact low.1
  next =>
    split at found
    next high =>
      cases found
      exact high
    next => cases found

/-- The shortest decimal of a magnitude reads back to it. -/
theorem rank_shortest (tie : Tie) (rank_le : rank ≤ infinityRank) :
    (shortest tie rank).rank = rank := by
  unfold shortest
  dsimp only
  rw [Decimal.rank_stripped]
  cases found : (List.range 17).findSome? fun count : Nat =>
      gridNeighbour? tie rank (leadingPlace rank - (count + 1 : Nat)) with
  | none => exact rank_exactDecimal rank_le
  | some decimal =>
    obtain ⟨count, -, hit⟩ := List.exists_of_findSome?_eq_some found
    exact rank_gridNeighbour hit

end SpatialFilter.Number
