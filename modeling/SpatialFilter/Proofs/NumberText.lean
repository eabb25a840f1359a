import SpatialFilter.Sql.Literal

/-!
# The characters of number texts

Numbers reach a query as plain numerals.  An integer is written with digits and a minus, a finite
number with digits, a point and a minus, so that no number can hold a quote, a comma or a blank.
-/

namespace SpatialFilter.Number

theorem isDigit_of_mem_toDigits {value : Nat} {c : Char} (member : c ∈ toDigits value) :
    c.isDigit = true :=
  Nat.isDigit_of_mem_toDigits (by decide) (by decide) member

/-- The text of an integer is made of digits and a minus. -/
theorem int32Text_chars {value : Int32} {c : Char} (member : c ∈ (int32Text value).toList) :
    c.isDigit = true ∨ c = '-' := by
  unfold int32Text integerText at member
  split at member
  · simp only [String.toList_append, String.toList_ofList, List.mem_append] at member
    rcases member with sign | digit
    · right
      simpa using sign
    · exact Or.inl (isDigit_of_mem_toDigits digit)
  · rw [String.toList_ofList] at member
    exact Or.inl (isDigit_of_mem_toDigits member)

theorem isDigit_of_mem_zeros {count : Nat} {c : Char} (member : c ∈ List.replicate count '0') :
    c.isDigit = true := by
  rw [(List.mem_replicate.mp member).2]
  decide

/-- Positional form consists of digits and at most a point. -/
theorem Decimal.positional_chars {decimal : Decimal} {c : Char}
    (member : c ∈ (decimal.positional "").toList) : c.isDigit = true ∨ c = '.' := by
  unfold Decimal.positional at member
  dsimp only at member
  split at member
  · simp only [String.toList_append, String.toList_ofList, List.mem_append] at member
    rcases member with (digit | zero) | suffix
    · exact Or.inl (isDigit_of_mem_toDigits digit)
    · exact Or.inl (isDigit_of_mem_zeros zero)
    · simp at suffix
  · split at member
    · simp only [String.toList_append, String.toList_ofList, List.mem_append] at member
      rcases member with (digit | point) | digit
      · exact Or.inl (isDigit_of_mem_toDigits (List.mem_of_mem_take digit))
      · right
        simpa using point
      · exact Or.inl (isDigit_of_mem_toDigits (List.mem_of_mem_drop digit))
    · simp only [String.toList_append, String.toList_ofList, List.mem_append] at member
      rcases member with lead | zero | digit
      · have either : c = '0' ∨ c = '.' := by simpa using lead
        rcases either with rfl | rfl
        · left
          decide
        · exact Or.inr rfl
      · exact Or.inl (isDigit_of_mem_zeros zero)
      · exact Or.inl (isDigit_of_mem_toDigits digit)

theorem magnitudeText_chars {rank : Nat} (finite : rank < infinityRank) {c : Char}
    (member : c ∈ (magnitudeText plainLayout rank).toList) : c.isDigit = true ∨ c = '.' := by
  unfold magnitudeText at member
  split at member
  · left
    have zero : c = '0' := by simpa [plainLayout] using member
    rw [zero]
    decide
  · split at member
    · omega
    · exact Decimal.positional_chars member

/-- The plain text of a finite number. -/
theorem Binary64.text_chars {value : Binary64} (finite : value.isFinite = true) {c : Char}
    (member : c ∈ value.text.toList) : c.isDigit = true ∨ c = '.' ∨ c = '-' := by
  cases value with
  | nan => cases finite
  | ranked negative rank rank_le =>
    have below : rank < infinityRank := by simpa [isFinite] using finite
    cases negative with
    | true =>
      change c ∈ ("-" ++ magnitudeText plainLayout rank).toList at member
      rw [String.toList_append, List.mem_append] at member
      rcases member with sign | magnitude
      · right
        right
        simpa using sign
      · exact (magnitudeText_chars below magnitude).imp_right Or.inl
    | false => exact (magnitudeText_chars below member).imp_right Or.inl

theorem number_of_finite {value : Binary64} (finite : value.isFinite = true) :
    Sql.number value = .ok value.text := by
  simp [Sql.number, finite]

theorem number_of_nonFinite {value : Binary64} (other : value.isFinite = false) :
    Sql.number value = .error (.nonFinite value) := by
  simp [Sql.number, other]

/-- Exactly the finite numbers can be written, in their plain text. -/
theorem number_eq_ok_iff {value : Binary64} {text : String} :
    Sql.number value = .ok text ↔ value.isFinite = true ∧ text = value.text := by
  unfold Sql.number
  cases finite : value.isFinite with
  | true => simp [eq_comm]
  | false => simp

/-- A box of four finite numbers can be written. -/
theorem boxLiteral_of_finite {xmin ymin xmax ymax : Binary64}
    (finite : ∀ value ∈ [xmin, ymin, xmax, ymax], value.isFinite = true) (srid : Int32) :
    ∃ sql, Sql.boxLiteral xmin ymin xmax ymax srid = .ok sql := by
  have x₀ := number_of_finite (finite xmin (by simp))
  have y₀ := number_of_finite (finite ymin (by simp))
  have x₁ := number_of_finite (finite xmax (by simp))
  have y₁ := number_of_finite (finite ymax (by simp))
  simp only [Sql.boxLiteral, Sql.cornersText, x₀, y₀, x₁, y₁]
  exact ⟨_, rfl⟩

end SpatialFilter.Number
