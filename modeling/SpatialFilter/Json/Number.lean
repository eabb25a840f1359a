import SpatialFilter.Json.Scanner

/-!
# Numbers in JSON

A number without point and exponent is an integer as long as it fits 64 bits; `-0` and all
other numbers are floating-point numbers.  Their value is computed from a significand of at
most 64 bits and a power of ten with one rounding each, so it may be off by one unit from the
nearest number.
-/

namespace SpatialFilter.Json

open SpatialFilter.Number

def significandLimit : Nat := 0xFFFFFFFFFFFFFFFF

/-- Digits taken into a significand for as long as it stays within its limit, and how many are
left then. -/
def absorb (significand : Nat) : List Char → Nat × Nat
  | [] => (significand, 0)
  | digit :: rest =>
    let next := 10 * significand + digitValue digit
    if next ≤ significandLimit then absorb next rest else (significand, rest.length + 1)

def ofSignificand (significand : Nat) : Binary64 :=
  .ofUnits false (significand * unitsPerOne) 1

def powerOfTen (exponent : Nat) : Binary64 :=
  .ofUnits false (Nat.pow 10 exponent * unitsPerOne) 1

/-- A number times a power of ten, in steps of at most 308 places downwards.  A result that is
too large breaks the grammar. -/
def scale (value : Binary64) (exponent : Int) : Except Fault Binary64 :=
  if exponent.natAbs ≤ 308 then
    if 0 ≤ exponent then
      let product := value.mul (powerOfTen exponent.natAbs)
      if product.isInfinite then .error .malformed else .ok product
    else .ok (value.div (powerOfTen exponent.natAbs))
  else if value = .zero false then .ok value
  else if 0 ≤ exponent then .error .malformed
  else scale (value.div (powerOfTen 308)) (exponent + 308)
termination_by (-exponent).toNat
decreasing_by omega

def real (negative : Bool) (significand : Nat) (exponent : Int) : Except Fault Found := do
  let magnitude ← scale (ofSignificand significand) exponent
  return .real (if negative then magnitude.negate else magnitude)

/-- The largest exponent that is taken as it is. -/
def exponentLimit : Nat := 0x7FFFFFFF

/-- The exponent part after its letter, and with it the number.  An exponent beyond the limit
gives zero or a number that is too large. -/
def exponentPart (negative : Bool) (significand : Nat) (exponent : Int) : Scanner Found := do
  let text ← get
  let (down, digits) := splitSign text
  match digits with
  | [] => throw .truncated
  | c :: _ =>
    if !c.isDigit then throw .malformed
    let written := ofDigits (digits.takeWhile Char.isDigit)
    set (digits.dropWhile Char.isDigit)
    if written ≤ exponentLimit then
      real negative significand (if down then exponent - written else exponent + written)
    else if significand ≠ 0 ∧ ¬down then throw .malformed
    else return .real (.zero negative)

/-- What follows the mantissa: an exponent part, or nothing. -/
def afterMantissa (negative : Bool) (significand : Nat) (exponent : Int) : Scanner Found := do
  match (← get).head? with
  | some c =>
    if c = 'e' ∨ c = 'E' then
      advance
      exponentPart negative significand exponent
    else real negative significand exponent
  | none => real negative significand exponent

/-- The digits after the point, of which there must be one, and with them the number. -/
def fractionPart (negative : Bool) (significand : Nat) (exponent : Int) : Scanner Found := do
  let text ← get
  let digits := text.takeWhile Char.isDigit
  let after := text.dropWhile Char.isDigit
  if digits.isEmpty then throw (if after.isEmpty then .truncated else .malformed)
  set after
  let (total, dropped) := absorb significand digits
  afterMantissa negative total (exponent - (digits.length - dropped : Nat))

/-- The number of digits before the point, given what follows them. -/
def wholePart (negative : Bool) (digits : List Char) : Scanner Found := do
  let (significand, dropped) := absorb 0 digits
  match (← get).head? with
  | some '.' =>
    advance
    fractionPart negative significand dropped
  | some 'e' =>
    advance
    exponentPart negative significand dropped
  | some 'E' =>
    advance
    exponentPart negative significand dropped
  | _ =>
    if dropped ≠ 0 then real negative significand dropped
    else if ¬negative then return .integer significand
    else if 0 < significand ∧ significand ≤ 0x8000000000000000 then return .integer (-significand)
    else return .real (ofSignificand significand).negate

/-- A number after its sign. -/
def number (negative : Bool) : Scanner Found := do
  let text ← get
  let digits := text.takeWhile Char.isDigit
  match text with
  | [] => throw .truncated
  | c :: _ =>
    if digits.isEmpty then throw .malformed
    if c = '0' ∧ digits ≠ [c] then throw .malformed
    set (text.dropWhile Char.isDigit)
    wholePart negative digits

/-- Passes the digits of a number, of which there must be one.  The end of the document is no
digit. -/
def skipDigits : Scanner Unit := do
  let text ← get
  if (text.takeWhile Char.isDigit).isEmpty then throw .malformed
  set (text.dropWhile Char.isDigit)

/-- Passes an exponent part, if there is one. -/
def skipExponent : Scanner Unit := do
  match ← get with
  | c :: rest =>
    if c = 'e' ∨ c = 'E' then
      set (splitSign rest).2
      skipDigits
  | [] => pure ()

/-- Passes a number after its sign, whatever its value. -/
def skipNumber : Scanner Unit := do
  let text ← get
  let digits := text.takeWhile Char.isDigit
  if digits.head? = some '0' ∧ digits.length ≠ 1 then throw .malformed
  skipDigits
  match ← get with
  | '.' :: rest =>
    set rest
    skipDigits
    skipExponent
  | _ => skipExponent

end SpatialFilter.Json
