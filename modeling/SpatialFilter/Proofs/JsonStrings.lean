import Mathlib.Data.List.Basic
import SpatialFilter.Configuration.Write
import SpatialFilter.Json.Scanner

/-!
# Strings in JSON

A string is written with escapes for quotes, backslashes and control characters, and with all other
characters as they are.  What is written is read back up to its closing quote, whatever follows
(`scanString_written`), and it is passed over likewise where nobody wants it (`skipString_written`).
-/

namespace SpatialFilter.Json

open SpatialFilter.Configuration

/-! ## Escapes -/

theorem hexValue_digitChar : ∀ digit < 16, hexValue? (Nat.digitChar digit) = some digit := by
  decide

theorem toNat_lt_of_control {c : Char} (control : c < ' ') : c.toNat < 32 := by
  simpa [Char.lt_def, UInt32.lt_iff_toNat_lt] using control

/-- Four characters have at least four bytes. -/
theorem hasFourBytes_of_digits (digits : List Char) (four : digits.length = 4) (rest : List Char) :
    hasFourBytes (digits ++ rest) = true := by
  have bytes : ∀ text : List Char, text.length ≤ Text.byteLength text := by
    intro text
    induction text with
    | nil => exact Nat.le_refl 0
    | cons c others ih =>
      have := c.utf8Size_pos
      rw [List.length_cons, Text.byteLength]
      omega
  have taken : (digits ++ rest).take 4 = digits := by rw [← four, List.take_left]
  rw [hasFourBytes, taken, ← four]
  exact decide_eq_true (bytes digits)

/-- How the code of a control character is closed. -/
theorem closeUnit_of_control {c : Char} (control : c < ' ') :
    closeUnit c.toNat none = .ok (some c, .plain) := by
  have small := toNat_lt_of_control control
  have not_low : isLowSurrogate c.toNat = false := by simp [isLowSurrogate]; omega
  have not_high : isHighSurrogate c.toNat = false := by simp [isHighSurrogate]; omega
  simp [closeUnit, not_low, not_high]

/-- The escape of a control character: its code in four digits. -/
theorem unit_of_control {c : Char} (control : c < ' ') :
    hexValue? (Nat.digitChar (c.toNat / 16)) = some (c.toNat / 16) ∧
      hexValue? (Nat.digitChar (c.toNat % 16)) = some (c.toNat % 16) ∧
      16 * (c.toNat / 16) + c.toNat % 16 = c.toNat := by
  have small := toNat_lt_of_control control
  exact ⟨hexValue_digitChar _ (by omega), hexValue_digitChar _ (by omega), Nat.div_add_mod _ _⟩

/-! ## Reading what is written -/

theorem scanString_controlDigits {c : Char} (control : c < ' ') (text : List Char) :
    scanString (.unit 4 0 none) (controlDigits c ++ text) = (do
      let (content, after) ← scanString .plain text
      return (c :: content, after)) := by
  obtain ⟨high, low, code⟩ := unit_of_control control
  have zero : hexValue? '0' = some 0 := rfl
  simp only [controlDigits, List.cons_append, List.nil_append, scanString, zero, high, low]
  simp [code, closeUnit_of_control control]
  rfl

theorem skipString_controlDigits {c : Char} (control : c < ' ') (text : List Char) :
    skipString (.unit 4 0 none) (controlDigits c ++ text) = skipString .plain text := by
  obtain ⟨high, low, -⟩ := unit_of_control control
  have zero : hexValue? '0' = some 0 := rfl
  simp [controlDigits, skipString, zero, high, low]

/-- A character is written as an escape of one letter, as an escape with its code, or as it is. -/
theorem encodeChar_cases (c : Char) :
    (∃ mark, simpleEscape? mark = some c ∧ mark ≠ 'u' ∧ encodeChar c = ['\\', mark]) ∨
      (c < ' ' ∧ encodeChar c = ['\\', 'u'] ++ controlDigits c) ∨
      (c ≠ '"' ∧ c ≠ '\\' ∧ ¬ c < ' ' ∧ encodeChar c = [c]) := by
  unfold encodeChar
  split
  next => exact .inl ⟨'"', by decide⟩
  next => exact .inl ⟨'\\', by decide⟩
  next => exact .inl ⟨'b', by decide⟩
  next => exact .inl ⟨'f', by decide⟩
  next => exact .inl ⟨'n', by decide⟩
  next => exact .inl ⟨'r', by decide⟩
  next => exact .inl ⟨'t', by decide⟩
  next quote backslash _ _ _ _ _ =>
    split
    next control => exact .inr (.inl ⟨control, rfl⟩)
    next shown => exact .inr (.inr ⟨quote, backslash, shown, rfl⟩)

/-- What is written for a character is read as the character. -/
theorem scanString_encodeChar (c : Char) (text : List Char) :
    scanString .plain (encodeChar c ++ text) = (do
      let (content, after) ← scanString .plain text
      return (c :: content, after)) := by
  rcases encodeChar_cases c with ⟨mark, meant, no_unit, written⟩ | ⟨control, written⟩ |
    ⟨quote, backslash, shown, written⟩
  · simp [written, scanString, no_unit, meant]
  · have room := hasFourBytes_of_digits (controlDigits c) rfl text
    rw [written, ← scanString_controlDigits control]
    simp [scanString, room]
  · simp [written, scanString, quote, backslash, shown]

theorem skipString_encodeChar (c : Char) (text : List Char) :
    skipString .plain (encodeChar c ++ text) = skipString .plain text := by
  rcases encodeChar_cases c with ⟨mark, meant, no_unit, written⟩ | ⟨control, written⟩ |
    ⟨quote, backslash, shown, written⟩
  · simp [written, skipString, no_unit, meant]
  · have room := hasFourBytes_of_digits (controlDigits c) rfl text
    rw [written, ← skipString_controlDigits control text]
    simp [skipString, room]
  · simp [written, skipString, quote, backslash, shown]

/-- What is written for a string is read as the string, up to its closing quote. -/
theorem scanString_written (content rest : List Char) :
    scanString .plain (content.flatMap encodeChar ++ '"' :: rest) = .ok (content, rest) := by
  induction content with
  | nil => rfl
  | cons c others ih =>
    rw [List.flatMap_cons, List.append_assoc, scanString_encodeChar, ih]
    rfl

theorem skipString_written (content rest : List Char) :
    skipString .plain (content.flatMap encodeChar ++ '"' :: rest) = .ok rest := by
  induction content with
  | nil => rfl
  | cons c others ih => rw [List.flatMap_cons, List.append_assoc, skipString_encodeChar, ih]

end SpatialFilter.Json
