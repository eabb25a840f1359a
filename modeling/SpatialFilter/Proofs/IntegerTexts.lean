import Mathlib.Algebra.Group.Nat.Defs
import Mathlib.Data.List.Induction
import SpatialFilter.Proofs.NumberText
import SpatialFilter.Proofs.Words

/-!
# Texts of integers

A whole number is written with digits and a sign or none (`WritesInt`), and these texts are exactly
the ones that are read as it (`readInt_eq_some_iff`).  Digits are read as the number they were
written for, and a run of digits in front of another counts by as many tens as there are digits
behind it (`ofDigits_append`).  The text of a 32-bit integer is read back as that integer, so that
two integers with one text are the same (`int32Text_injective`).  A text that writes a number of at
least zero ends in the text of that number (`WritesInt.integerText_isSuffix`).
-/

namespace SpatialFilter.Number

open SpatialFilter.Text

/-! ## Digits -/

theorem ofDigits_eq_ofDigitChars (digits : List Char) :
    ofDigits digits = Nat.ofDigitChars 10 digits 0 := by
  rw [Nat.ofDigitChars_eq_foldl]
  rfl

/-- The digits of a number are read back as the number. -/
theorem ofDigits_toDigits (value : Nat) : ofDigits (toDigits value) = value := by
  rw [ofDigits_eq_ofDigitChars]
  exact Nat.ofDigitChars_ten_toDigits

theorem ofDigits_append (digits more : List Char) :
    ofDigits (digits ++ more) = ofDigits digits * 10 ^ more.length + ofDigits more := by
  simp only [ofDigits_eq_ofDigitChars]
  rw [Nat.ofDigitChars_append, Nat.ofDigitChars_eq_ofDigitChars_zero, Nat.mul_comm]

theorem ofDigits_zeros (count : Nat) : ofDigits (List.replicate count '0') = 0 := by
  rw [ofDigits_eq_ofDigitChars, Nat.ofDigitChars_replicate_zero, Nat.mul_zero]

theorem toDigits_ne_nil (value : Nat) : toDigits value ≠ [] :=
  Nat.toDigits_ne_nil

theorem isDigits_iff {text : List Char} :
    isDigits text = true ↔ text ≠ [] ∧ ∀ c ∈ text, c.isDigit = true := by
  simp [isDigits]

theorem isDigits_toDigits (value : Nat) : isDigits (toDigits value) = true :=
  isDigits_iff.mpr ⟨toDigits_ne_nil value, fun _ member => isDigit_of_mem_toDigits member⟩

theorem isDigit_bounds {c : Char} (digit : c.isDigit = true) : 48 ≤ c.toNat ∧ c.toNat ≤ 57 := by
  simpa [Char.isDigit, UInt32.le_iff_toNat_le] using digit

theorem ne_of_isDigit {c mark : Char} (digit : c.isDigit = true) (plain : mark.isDigit = false) :
    c ≠ mark := by
  rintro rfl
  rw [digit] at plain
  cases plain

theorem not_isBlank_of_isDigit {c : Char} (digit : c.isDigit = true) : isBlank c = false := by
  have bounds := isDigit_bounds digit
  simp [isBlank, blankRanges]
  omega

theorem digitValue_lt {c : Char} (digit : c.isDigit = true) : digitValue c < 10 := by
  have bounds := isDigit_bounds digit
  unfold digitValue
  omega

theorem toDigits_digitValue {c : Char} (digit : c.isDigit = true) :
    toDigits (digitValue c) = [c] := by
  have bounds := isDigit_bounds digit
  have same : Nat.digitChar (digitValue c) = c := by
    apply Char.toNat_inj.mp
    rw [Nat.toNat_digitChar_of_lt_ten (digitValue_lt digit)]
    unfold digitValue
    omega
  rw [toDigits, Nat.toDigits_of_lt_base (digitValue_lt digit), same]

/-- A run of digits ends in the digits of the number that it writes. -/
theorem toDigits_ofDigits_isSuffix {digits : List Char} (only : isDigits digits = true) :
    toDigits (ofDigits digits) <:+ digits := by
  obtain ⟨some_text, each⟩ := isDigits_iff.mp only
  clear only
  induction digits using List.reverseRecOn with
  | nil => exact absurd rfl some_text
  | append_singleton front last ih =>
    have digit := each last (by simp)
    have value_eq : ofDigits (front ++ [last]) = 10 * ofDigits front + digitValue last := by
      simp [ofDigits]
    rw [value_eq]
    by_cases zero : ofDigits front = 0
    · rw [zero, Nat.mul_zero, Nat.zero_add, toDigits_digitValue digit]
      exact List.suffix_append front [last]
    · -- The number has the digits of its tens and the last digit.
      have front_text : front ≠ [] := by
        rintro rfl
        exact zero rfl
      have longer : toDigits (10 * ofDigits front + digitValue last) =
          toDigits (ofDigits front) ++ [last] := by
        rw [← toDigits_digitValue digit]
        exact (Nat.toDigits_append_toDigits (by omega) (by omega) (digitValue_lt digit)).symm
      obtain ⟨zeros, front_eq⟩ :=
        ih front_text fun c member => each c (List.mem_append_left _ member)
      rw [longer]
      exact ⟨zeros, by rw [← List.append_assoc, front_eq]⟩

/-! ## Whole numbers -/

/-- A text writes a whole number: digits, with a sign in front or without one. -/
inductive WritesInt : Int → List Char → Prop
  | unsigned {digits : List Char} (only : isDigits digits = true) :
    WritesInt (ofDigits digits) digits
  | plus {digits : List Char} (only : isDigits digits = true) :
    WritesInt (ofDigits digits) ('+' :: digits)
  | minus {digits : List Char} (only : isDigits digits = true) :
    WritesInt (-ofDigits digits) ('-' :: digits)

theorem splitSign_of_ne {c : Char} (minus : c ≠ '-') (plus : c ≠ '+') (rest : List Char) :
    splitSign (c :: rest) = (false, c :: rest) := by
  simp [splitSign, minus, plus]

theorem splitSign_of_isDigits {digits : List Char} (only : isDigits digits = true) :
    splitSign digits = (false, digits) := by
  obtain ⟨some_text, each⟩ := isDigits_iff.mp only
  obtain ⟨c, rest, rfl⟩ := List.exists_cons_of_ne_nil some_text
  have digit := each c List.mem_cons_self
  exact splitSign_of_ne (ne_of_isDigit digit rfl) (ne_of_isDigit digit rfl) rest

/-- A text begins with a sign, or there is none to take off. -/
theorem splitSign_cases (text : List Char) :
    (∃ digits, text = '-' :: digits) ∨ (∃ digits, text = '+' :: digits) ∨
      splitSign text = (false, text) := by
  unfold splitSign
  split
  · exact .inl ⟨_, rfl⟩
  · exact .inr (.inl ⟨_, rfl⟩)
  · exact .inr (.inr rfl)

/-- What is split at its sign is read as the number of the digits behind it, and only digits are. -/
theorem readInt_eq_some_of_split {text digits : List Char} {negative : Bool} {value : Int}
    (split : splitSign text = (negative, digits)) :
    readInt? text = some value ↔
      isDigits digits = true ∧
        (if negative then -(ofDigits digits : Int) else ofDigits digits) = value := by
  unfold readInt?
  rw [split]
  simp

/-- A text is read as an integer exactly when it writes the integer. -/
theorem readInt_eq_some_iff {text : List Char} {value : Int} :
    readInt? text = some value ↔ WritesInt value text := by
  constructor
  · intro read
    rcases splitSign_cases text with ⟨digits, rfl⟩ | ⟨digits, rfl⟩ | unsigned
    · obtain ⟨only, rfl⟩ := (readInt_eq_some_of_split rfl).mp read
      exact .minus only
    · obtain ⟨only, rfl⟩ := (readInt_eq_some_of_split rfl).mp read
      exact .plus only
    · obtain ⟨only, rfl⟩ := (readInt_eq_some_of_split unsigned).mp read
      exact .unsigned only
  · intro writes
    cases writes with
    | unsigned only =>
      exact (readInt_eq_some_of_split (splitSign_of_isDigits only)).mpr ⟨only, rfl⟩
    | plus only => exact (readInt_eq_some_of_split rfl).mpr ⟨only, rfl⟩
    | minus only => exact (readInt_eq_some_of_split rfl).mpr ⟨only, rfl⟩

theorem WritesInt.ne_nil {value : Int} {text : List Char} (writes : WritesInt value text) :
    text ≠ [] := by
  rintro rfl
  cases writes with
  | unsigned only => cases only

theorem WritesInt.noBlank {value : Int} {text : List Char} (writes : WritesInt value text) :
    NoBlank text := by
  have digits_noBlank : ∀ {digits}, isDigits digits = true → NoBlank digits := by
    intro digits only c member
    exact not_isBlank_of_isDigit ((isDigits_iff.mp only).2 c member)
  cases writes with
  | unsigned only => exact digits_noBlank only
  | plus only | minus only =>
    intro c member
    cases member with
    | head => rfl
    | tail _ inside => exact digits_noBlank only c inside

/-- The text of an integer writes it. -/
theorem writesInt_integerText (value : Int) : WritesInt value (integerText value).toList := by
  have only := isDigits_toDigits value.natAbs
  unfold integerText
  split
  next negative =>
    have value_eq : -(ofDigits (toDigits value.natAbs) : Int) = value := by
      rw [ofDigits_toDigits]
      omega
    have writes := WritesInt.minus only
    rw [value_eq] at writes
    rw [String.toList_append, String.toList_ofList, String.toList_ofList]
    exact writes
  next nonnegative =>
    have value_eq : (ofDigits (toDigits value.natAbs) : Int) = value := by
      rw [ofDigits_toDigits]
      omega
    have writes := WritesInt.unsigned only
    rw [value_eq] at writes
    rw [String.toList_ofList]
    exact writes

theorem integerText_of_nonneg (value : Nat) : (integerText value).toList = toDigits value := by
  unfold integerText
  rw [if_neg (by omega), String.toList_ofList, Int.natAbs_natCast]

/-- A sign and zeros are all that can stand in front of the text of a number of at least zero. -/
theorem WritesInt.integerText_isSuffix {value : Int} {text : List Char}
    (writes : WritesInt value text) (nonneg : 0 ≤ value) :
    (integerText value).toList <:+ text := by
  cases writes with
  | unsigned only =>
    rw [integerText_of_nonneg]
    exact toDigits_ofDigits_isSuffix only
  | plus only =>
    rw [integerText_of_nonneg]
    exact (toDigits_ofDigits_isSuffix only).trans (List.suffix_cons _ _)
  | @minus digits only =>
    -- Only zero is of at least zero with a minus.
    have zero : -(ofDigits digits : Int) = ofDigits digits := by omega
    rw [zero, integerText_of_nonneg]
    exact (toDigits_ofDigits_isSuffix only).trans (List.suffix_cons _ _)

/-! ## Integers of 32 bits -/

/-- An integer fits into 32 bits exactly when a word has it as its value. -/
theorem toInt32_eq_some_iff {value : Int} {word : Int32} :
    toInt32? value = some word ↔ value = word.toInt := by
  unfold toInt32?
  constructor
  · intro taken
    split at taken
    next bounds =>
      cases taken
      exact (Int32.toInt_ofInt_of_le bounds.1 (by omega)).symm
    next => cases taken
  · rintro rfl
    have low : -2147483648 ≤ word.toInt := word.le_toInt
    have high : word.toInt < 2147483648 := word.toInt_lt
    rw [if_pos (by omega), Int32.toInt.inj (Int32.toInt_ofInt_of_le low high)]

theorem readInt32_eq_some_iff {text : List Char} {value : Int32} :
    readInt32? text = some value ↔ WritesInt value.toInt text := by
  unfold readInt32?
  rw [Option.bind_eq_bind, Option.bind_eq_some_iff, ← readInt_eq_some_iff]
  simp only [toInt32_eq_some_iff]
  constructor
  · rintro ⟨found, read, rfl⟩
    exact read
  · intro read
    exact ⟨_, read, rfl⟩

theorem writesInt_int32Text (value : Int32) : WritesInt value.toInt (int32Text value).toList :=
  writesInt_integerText value.toInt

/-- The text of a 32-bit integer is read back. -/
theorem readInt32_int32Text (value : Int32) :
    readInt32? (int32Text value).toList = some value :=
  readInt32_eq_some_iff.mpr (writesInt_int32Text value)

theorem int32Text_injective {value other : Int32} (same : int32Text value = int32Text other) :
    value = other := by
  have read := readInt32_int32Text value
  rw [same, readInt32_int32Text, Option.some.injEq] at read
  exact read.symm

theorem trim_int32Text (value : Int32) :
    trim (int32Text value).toList = (int32Text value).toList :=
  have writes := writesInt_int32Text value
  trim_of_shows (shows_word _) writes.ne_nil writes.noBlank

end SpatialFilter.Number
