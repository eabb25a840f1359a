import SpatialFilter.Filter.Coordinates
import SpatialFilter.Proofs.Words

/-!
# The characters of numerals

A numeral that is read as a finite number has at least one character, and all of its characters are
among those that the comma test of a coordinate list looks for (`isNumeralChar`).  The test asks for
a run of such characters and a comma behind it (`commaLeads_eq_true_iff`), so a finite number in
front of a comma is always recognised (`commaLeads_of_finite`).  The numerals of the infinities and
of NaN have other characters.
-/

namespace SpatialFilter

open SpatialFilter.Number

/-! ## What is read as a number -/

/-- A number is read from a text, blanks around it aside, when it is a numeral of a finite one. -/
theorem readNumber_eq_ok {text : List Char} {value : Binary64} :
    readNumber text = .ok value ↔
      Binary64.read? (Text.trim text) = some value ∧ value.isFinite = true := by
  unfold readNumber
  dsimp only
  cases Binary64.read? (Text.trim text) with
  | none => simp
  | some found =>
    cases finite : found.isFinite with
    | true =>
      simp only [finite, if_true, Except.ok.injEq, Option.some.injEq]
      constructor
      · rintro rfl
        exact ⟨rfl, finite⟩
      · exact And.left
    | false =>
      simp only [finite, Bool.false_eq_true, if_false, reduceCtorEq, Option.some.injEq, false_iff]
      rintro ⟨rfl, other⟩
      rw [finite] at other
      cases other

theorem isNumeralChar_of_isDigit {c : Char} (digit : c.isDigit = true) :
    isNumeralChar c = true := by
  simp [isNumeralChar, digit]

/-- A sign is all that is cut off in front of a numeral. -/
theorem splitSign_chars (text : List Char) :
    ∀ c ∈ text, c ∈ (splitSign text).2 ∨ c = '-' ∨ c = '+' := by
  unfold splitSign
  split
  · intro c member
    rcases List.mem_cons.mp member with rfl | inside
    · exact Or.inr (Or.inl rfl)
    · exact Or.inl inside
  · intro c member
    rcases List.mem_cons.mp member with rfl | inside
    · exact Or.inr (Or.inr rfl)
    · exact Or.inl inside
  · intro c member
    exact Or.inl member

/-- A sign may stand in front of the characters of a numeral. -/
theorem isNumeralChar_of_splitSign {text : List Char}
    (unsigned : ∀ c ∈ (splitSign text).2, isNumeralChar c = true) :
    ∀ c ∈ text, isNumeralChar c = true := by
  intro c member
  rcases splitSign_chars text c member with inside | rfl | rfl
  · exact unsigned c inside
  · rfl
  · rfl

theorem isNumeralChar_of_readInt {text : List Char} {value : Int}
    (read : readInt? text = some value) : ∀ c ∈ text, isNumeralChar c = true := by
  unfold readInt? at read
  apply isNumeralChar_of_splitSign
  by_cases digits : isDigits (splitSign text).2 = true
  · simp only [isDigits, Bool.and_eq_true, List.all_eq_true] at digits
    intro c member
    exact isNumeralChar_of_isDigit (digits.2 c member)
  · simp [digits] at read

theorem isNumeralChar_of_readExponent {text : List Char} {value : Int}
    (read : readExponent? text = some value) : ∀ c ∈ text, isNumeralChar c = true := by
  unfold readExponent? at read
  split at read
  · simp
  next rest =>
    intro c member
    rcases List.mem_cons.mp member with rfl | inside
    · rfl
    · exact isNumeralChar_of_readInt read c inside
  next rest =>
    intro c member
    rcases List.mem_cons.mp member with rfl | inside
    · rfl
    · exact isNumeralChar_of_readInt read c inside
  · cases read

/-- A mantissa consists of digits and a point. -/
theorem splitMantissa_chars (text : List Char) :
    ∀ c ∈ text, c.isDigit = true ∨ c = '.' ∨ c ∈ (splitMantissa text).2.2 := by
  have digits : ∀ run : List Char, ∀ c ∈ run.takeWhile Char.isDigit, c.isDigit = true :=
    fun run => List.all_eq_true.mp List.all_takeWhile
  have either : ∀ run : List Char, ∀ c ∈ run,
      c.isDigit = true ∨ c ∈ run.dropWhile Char.isDigit := by
    intro run c member
    have cut : run.takeWhile Char.isDigit ++ run.dropWhile Char.isDigit = run :=
      List.takeWhile_append_dropWhile
    rw [← cut, List.mem_append] at member
    exact member.imp_left (digits run c)
  intro c member
  unfold splitMantissa
  dsimp only
  rcases either text c member with digit | behind
  · exact Or.inl digit
  · split
    next rest point =>
      rw [point] at behind
      rcases List.mem_cons.mp behind with rfl | inside
      · exact Or.inr (Or.inl rfl)
      · exact (either rest c inside).imp_right Or.inr
    next => exact Or.inr (Or.inr behind)

/-- An unsigned decimal is not empty, and what follows its mantissa is an exponent. -/
theorem isNumeralChar_of_readDecimal {text : List Char} {decimal : Decimal}
    (read : Decimal.read? text = some decimal) :
    text ≠ [] ∧ ∀ c ∈ text, isNumeralChar c = true := by
  constructor
  · rintro rfl
    cases read
  · have parts := splitMantissa_chars text
    unfold Decimal.read? at read
    generalize splitMantissa text = mantissa at parts read
    obtain ⟨whole, fraction, rest⟩ := mantissa
    dsimp only at parts read
    split at read
    · cases read
    · obtain ⟨exponent, exponent_read, -⟩ := Option.map_eq_some_iff.mp read
      intro c member
      rcases parts c member with digit | rfl | behind
      · exact isNumeralChar_of_isDigit digit
      · rfl
      · exact isNumeralChar_of_readExponent exponent_read c behind

/-- A numeral of a finite number has characters, all of them characters of numerals. -/
theorem isNumeralChar_of_read {text : List Char} {value : Binary64}
    (read : Binary64.read? text = some value) (finite : value.isFinite = true) :
    text ≠ [] ∧ ∀ c ∈ text, isNumeralChar c = true := by
  unfold Binary64.read? at read
  dsimp only at read
  split at read
  · cases read
    simp [Binary64.infinity, Binary64.isFinite] at finite
  · split at read
    · cases read
      cases finite
    · obtain ⟨decimal, decimal_read, -⟩ := Option.map_eq_some_iff.mp read
      obtain ⟨some_text, unsigned⟩ := isNumeralChar_of_readDecimal decimal_read
      refine ⟨?_, isNumeralChar_of_splitSign unsigned⟩
      rintro rfl
      exact some_text rfl

/-! ## The comma test -/

/-- A comma leads where a run of numeral characters ends in it. -/
theorem commaLeads_eq_true_iff {text : List Char} :
    commaLeads text = true ↔ ∃ run rest, run ≠ [] ∧ (∀ c ∈ run, isNumeralChar c = true) ∧
      text = run ++ ',' :: rest := by
  constructor
  · intro leads
    simp only [commaLeads, Bool.and_eq_true, Bool.not_eq_true', List.isEmpty_eq_false_iff,
      beq_iff_eq] at leads
    obtain ⟨some_run, comma⟩ := leads
    obtain ⟨rest, behind⟩ := List.head?_eq_some_iff.mp comma
    refine ⟨_, rest, some_run, List.all_eq_true.mp List.all_takeWhile, ?_⟩
    rw [← behind, List.takeWhile_append_dropWhile]
  · rintro ⟨run, rest, some_run, inside, rfl⟩
    have stops : Text.StopsAt isNumeralChar (',' :: rest) := Text.stopsAt_cons _ rfl
    rw [commaLeads, Text.takeWhile_run inside stops, Text.dropWhile_run inside stops]
    simp [some_run]

/-- A finite number in front of a comma is recognised. -/
theorem commaLeads_of_finite {text rest : List Char} {value : Binary64}
    (read : Binary64.read? text = some value) (finite : value.isFinite = true) :
    commaLeads (text ++ ',' :: rest) = true := by
  obtain ⟨some_text, numeral⟩ := isNumeralChar_of_read read finite
  exact commaLeads_eq_true_iff.mpr ⟨text, rest, some_text, numeral, rfl⟩

/-- A space that comes before every comma tells the other way of separating. -/
theorem commaLeads_of_space {text rest : List Char} (free : ',' ∉ text) :
    commaLeads (text ++ ' ' :: rest) = false := by
  have stops : ((text ++ ' ' :: rest).dropWhile isNumeralChar).head? ≠ some ',' := by
    induction text with
    | nil => simp [isNumeralChar]
    | cons c others ih =>
      simp only [List.mem_cons, not_or] at free
      rw [List.cons_append, List.dropWhile_cons]
      split
      · exact ih free.2
      · simpa using Ne.symm free.1
  simp [commaLeads, stops]

end SpatialFilter
