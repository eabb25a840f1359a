import SpatialFilter.Number.Decimal

/-!
# Reading decimal numerals

The numerals of floating-point numbers: an optional sign, then `inf`, `infinity` or `nan` in
any letter case, or digits with at most one point among or around them and an optional
exponent.  Blanks are not allowed; whoever reads a field trims it first.  The value is the
nearest number, so that a numeral that is too large gives an infinity and one that is too
small a zero of its sign.
-/

namespace SpatialFilter.Number

/-- The exponent part of a numeral: nothing at all, or `e` or `E` and a whole number. -/
def readExponent? : List Char → Option Int
  | [] => some 0
  | 'e' :: rest => readInt? rest
  | 'E' :: rest => readInt? rest
  | _ => none

/-- The digits before and after the point, and what follows them.  The point may be missing,
and either run may be empty. -/
def splitMantissa (text : List Char) : List Char × List Char × List Char :=
  let whole := text.takeWhile Char.isDigit
  match text.dropWhile Char.isDigit with
  | '.' :: rest => (whole, rest.takeWhile Char.isDigit, rest.dropWhile Char.isDigit)
  | rest => (whole, [], rest)

/-- Reads an unsigned decimal with at least one digit in its mantissa. -/
def Decimal.read? (text : List Char) : Option Decimal :=
  let (whole, fraction, rest) := splitMantissa text
  if whole.isEmpty && fraction.isEmpty then none
  else (readExponent? rest).map fun exponent =>
    ⟨ofDigits (whole ++ fraction), exponent - fraction.length⟩

def Binary64.read? (text : List Char) : Option Binary64 :=
  let (negative, unsigned) := splitSign text
  let lowered := unsigned.map Char.toLower
  if lowered = "inf".toList ∨ lowered = "infinity".toList then some (.infinity negative)
  else if lowered = "nan".toList then some .nan
  else (Decimal.read? unsigned).map fun decimal => decimal.toBinary64 negative

end SpatialFilter.Number
