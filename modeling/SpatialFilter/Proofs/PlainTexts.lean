import SpatialFilter.Number.Numeral
import SpatialFilter.Proofs.DecimalRanks
import SpatialFilter.Proofs.NumberText
import SpatialFilter.Proofs.Words

/-!
# Reading back plain texts

A decimal in positional form is read as a decimal of the same rank: behind the digits of the
significand there may be zeros for its exponent, or they have a point among them or in front of them
(`Decimal.read_positional`).  With the shortest decimal this means that the plain text of a finite
number is read back as that number, the sign of zero included (`Binary64.read_text`).
-/

namespace SpatialFilter.Number

open SpatialFilter.Text

namespace Decimal

/-! ## Positional form -/

theorem read_digits {digits : List Char} (only : isDigits digits = true) :
    read? digits = some ⟨ofDigits digits, 0⟩ := by
  obtain ⟨some_digits, each⟩ := isDigits_iff.mp only
  have taken := takeWhile_run each (@stopsAt_nil Char.isDigit)
  have dropped := dropWhile_run each (@stopsAt_nil Char.isDigit)
  rw [List.append_nil] at taken dropped
  simp [read?, splitMantissa, taken, dropped, some_digits, readExponent?]

/-- Digits around a point are one significand, scaled by the digits behind the point. -/
theorem read_pointed {whole fraction : List Char} (only : isDigits whole = true)
    (each : ∀ c ∈ fraction, c.isDigit = true) :
    read? (whole ++ '.' :: fraction) = some ⟨ofDigits (whole ++ fraction), -fraction.length⟩ := by
  obtain ⟨some_digits, whole_digits⟩ := isDigits_iff.mp only
  have stops : StopsAt Char.isDigit ('.' :: fraction) := stopsAt_cons _ rfl
  have taken := takeWhile_run whole_digits stops
  have dropped := dropWhile_run whole_digits stops
  have taken_fraction := takeWhile_run each (@stopsAt_nil Char.isDigit)
  have dropped_fraction := dropWhile_run each (@stopsAt_nil Char.isDigit)
  rw [List.append_nil] at taken_fraction dropped_fraction
  simp [read?, splitMantissa, taken, dropped, taken_fraction, dropped_fraction, some_digits,
    readExponent?]

section Digits

variable {digits : List Char} (only : isDigits digits = true)

include only

/-- Zeros behind the digits count in the significand. -/
theorem read_zeros_behind (count : Nat) :
    read? (digits ++ List.replicate count '0') = some ⟨ofDigits digits * 10 ^ count, 0⟩ := by
  obtain ⟨some_digits, each⟩ := isDigits_iff.mp only
  have all_digits : isDigits (digits ++ List.replicate count '0') = true := by
    refine isDigits_iff.mpr ⟨by simp [some_digits], ?_⟩
    intro c member
    exact (List.mem_append.mp member).elim (each c) isDigit_of_mem_zeros
  rw [read_digits all_digits, ofDigits_append, ofDigits_zeros, List.length_replicate,
    Nat.add_zero]

/-- A point among the digits leaves the significand as it is. -/
theorem read_point_among {places : Nat} (inside : places < digits.length) :
    read? (digits.take (digits.length - places) ++ '.' :: digits.drop (digits.length - places)) =
      some ⟨ofDigits digits, -places⟩ := by
  obtain ⟨-, each⟩ := isDigits_iff.mp only
  have some_taken : digits.take (digits.length - places) ≠ [] := by
    rw [← List.length_pos_iff, List.length_take]
    omega
  have taken_digits : isDigits (digits.take (digits.length - places)) = true :=
    isDigits_iff.mpr ⟨some_taken, fun c member => each c (List.mem_of_mem_take member)⟩
  have dropped_length : (digits.drop (digits.length - places)).length = places := by
    rw [List.length_drop]
    omega
  rw [read_pointed taken_digits fun c member => each c (List.mem_of_mem_drop member),
    List.take_append_drop, dropped_length]

/-- Zeros between the point and the digits count in the exponent only. -/
theorem read_zeros_in_front {places : Nat} (outside : digits.length ≤ places) :
    read? ('0' :: '.' :: (List.replicate (places - digits.length) '0' ++ digits)) =
      some ⟨ofDigits digits, -places⟩ := by
  obtain ⟨-, each⟩ := isDigits_iff.mp only
  have fraction_digits : ∀ c ∈ List.replicate (places - digits.length) '0' ++ digits,
      c.isDigit = true := by
    intro c member
    exact (List.mem_append.mp member).elim isDigit_of_mem_zeros (each c)
  have read := @read_pointed ['0'] _ rfl fraction_digits
  have zero : ofDigits ['0'] = 0 := rfl
  have fraction_length : (List.replicate (places - digits.length) '0' ++ digits).length =
      places := by
    rw [List.length_append, List.length_replicate]
    omega
  rw [ofDigits_append, ofDigits_append, zero, ofDigits_zeros, Nat.zero_mul, Nat.zero_mul,
    Nat.zero_add, Nat.zero_add, fraction_length] at read
  exact read

end Digits

/-- Positional form without a suffix is read as a decimal of the same rank. -/
theorem read_positional (decimal : Decimal) :
    ∃ read, read? (decimal.positional "").toList = some read ∧ read.rank = decimal.rank := by
  obtain ⟨significand, exponent⟩ := decimal
  have only := isDigits_toDigits significand
  unfold positional
  dsimp only
  split
  next whole =>
    have exponent_eq : (0 : Int) + exponent.toNat = exponent := by omega
    have read := read_zeros_behind only exponent.toNat
    refine ⟨⟨ofDigits (toDigits significand) * 10 ^ exponent.toNat, 0⟩, ?_, ?_⟩
    · simpa using read
    · rw [rank_shift, ofDigits_toDigits, exponent_eq]
  next fractional =>
    have exponent_eq : -((-exponent).toNat : Int) = exponent := by omega
    refine ⟨⟨significand, exponent⟩, ?_, rfl⟩
    split
    next inside =>
      have read := read_point_among only inside
      rw [ofDigits_toDigits, exponent_eq] at read
      simpa using read
    next outside =>
      have read := read_zeros_in_front only (Nat.le_of_not_lt outside)
      rw [ofDigits_toDigits, exponent_eq] at read
      simpa using read

end Decimal

/-! ## Plain texts -/

/-- A text of digits and points. -/
def IsPlain (text : List Char) : Prop :=
  ∀ c ∈ text, c.isDigit = true ∨ c = '.'

theorem IsPlain.ne {text : List Char} (plain : IsPlain text) {c mark : Char} (member : c ∈ text)
    (no_digit : mark.isDigit = false) (no_point : mark ≠ '.') : c ≠ mark := by
  rcases plain c member with digit | rfl
  · exact ne_of_isDigit digit no_digit
  · exact no_point.symm

theorem IsPlain.splitSign {text : List Char} (plain : IsPlain text) :
    splitSign text = (false, text) := by
  cases text with
  | nil => rfl
  | cons c rest =>
    have minus : c ≠ '-' := plain.ne List.mem_cons_self rfl (by decide)
    have plus : c ≠ '+' := plain.ne List.mem_cons_self rfl (by decide)
    exact splitSign_of_ne minus plus rest

theorem IsPlain.map_toLower {text : List Char} (plain : IsPlain text) :
    text.map Char.toLower = text := by
  have kept : ∀ c ∈ text, c.toLower = c := by
    intro c member
    rcases plain c member with digit | rfl
    · have bounds := isDigit_bounds digit
      have no_capital : ¬ (c.val ≥ 'A'.val ∧ c.val ≤ 'Z'.val) := by
        rw [ge_iff_le, UInt32.le_iff_toNat_le]
        change ¬ (65 ≤ c.toNat ∧ _)
        omega
      exact dif_neg no_capital
    · rfl
  rw [List.map_congr_left kept, List.map_id']

/-- A plain text is no word. -/
theorem IsPlain.ne_word {text word : List Char} {first : Char} (plain : IsPlain text)
    (begins : word.head? = some first) (no_digit : first.isDigit = false)
    (no_point : first ≠ '.') : text ≠ word := by
  rintro rfl
  exact plain.ne (List.mem_of_mem_head? begins) no_digit no_point rfl

namespace Binary64

/-- A decimal of digits and points is read as a number, with a sign in front of it or without. -/
theorem read_of_decimal {text unsigned : List Char} {negative : Bool} {decimal : Decimal}
    (split : splitSign text = (negative, unsigned)) (plain : IsPlain unsigned)
    (read : Decimal.read? unsigned = some decimal) :
    read? text = some (decimal.toBinary64 negative) := by
  have not_inf : unsigned ≠ "inf".toList := plain.ne_word rfl rfl (by decide)
  have not_infinity : unsigned ≠ "infinity".toList := plain.ne_word rfl rfl (by decide)
  have not_nan : unsigned ≠ "nan".toList := plain.ne_word rfl rfl (by decide)
  unfold read?
  rw [split]
  dsimp only
  rw [plain.map_toLower, if_neg (by simp only [not_inf, not_infinity, or_self, not_false_iff]),
    if_neg not_nan, read]
  rfl

/-- The plain text of a magnitude reads back to it. -/
theorem read_magnitudeText {rank : Nat} (finite : rank < infinityRank) :
    ∃ decimal, Decimal.read? (magnitudeText plainLayout rank).toList = some decimal ∧
      decimal.rank = rank := by
  unfold magnitudeText
  split
  next zero =>
    subst zero
    exact ⟨⟨0, 0⟩, rfl, by decide +kernel⟩
  next =>
    rw [if_neg (Nat.ne_of_lt finite)]
    obtain ⟨decimal, read, same⟩ := (shortest plainLayout.tie rank).read_positional
    exact ⟨decimal, read, same.trans (rank_shortest _ (Nat.le_of_lt finite))⟩

/-- The plain text of a finite number is read back as that number. -/
theorem read_text {value : Binary64} (finite : value.isFinite = true) :
    read? value.text.toList = some value := by
  cases value with
  | nan => cases finite
  | ranked negative rank rank_le =>
    have below : rank < infinityRank := by simpa [isFinite] using finite
    obtain ⟨decimal, read, rfl⟩ := read_magnitudeText below
    have plain : IsPlain (magnitudeText plainLayout decimal.rank).toList :=
      fun c => magnitudeText_chars below
    cases negative with
    | true =>
      apply read_of_decimal _ plain read
      change splitSign ("-" ++ magnitudeText plainLayout decimal.rank).toList = _
      rw [String.toList_append]
      rfl
    | false => exact read_of_decimal plain.splitSign plain read

/-- No two finite numbers have the same plain text. -/
theorem text_inj {value other : Binary64} (value_finite : value.isFinite = true)
    (other_finite : other.isFinite = true) : value.text = other.text ↔ value = other := by
  constructor
  · intro same
    have read := read_text value_finite
    rw [same, read_text other_finite, Option.some.injEq] at read
    exact read.symm
  · intro same
    rw [same]

end Binary64

end SpatialFilter.Number
