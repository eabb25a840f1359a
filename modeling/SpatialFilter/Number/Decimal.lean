import SpatialFilter.Number.Binary64
import SpatialFilter.Number.Digits

/-!
# Decimals

A decimal is a whole number times a power of ten.  Each decimal is read as the floating-point
number nearest to it.
-/

namespace SpatialFilter.Number

/-- An unsigned decimal: `significand * 10 ^ exponent`. -/
structure Decimal where
  significand : Nat
  exponent : Int
  deriving DecidableEq, Repr

namespace Decimal

/-- The rank of the magnitude nearest to a decimal.  Powers of ten are bounded where the
answer no longer depends on them, below by the length of the significand. -/
def rank (decimal : Decimal) : Nat :=
  let up := min decimal.exponent.toNat 400
  let down := min (-decimal.exponent).toNat ((toDigits decimal.significand).length + 400)
  nearestRank (decimal.significand * Nat.pow 10 up * unitsPerOne) (Nat.pow 10 down)

theorem rank_le (decimal : Decimal) : decimal.rank ≤ infinityRank :=
  Nat.min_le_right ..

def toBinary64 (decimal : Decimal) (negative : Bool) : Binary64 :=
  .ranked negative decimal.rank decimal.rank_le

/-- The same decimal without zeros at the end of its significand. -/
def stripped (decimal : Decimal) : Decimal :=
  let digits := toDigits decimal.significand
  let kept := (digits.reverse.dropWhile fun c => c == '0').reverse
  ⟨ofDigits kept, decimal.exponent + (digits.length - kept.length : Nat)⟩

end Decimal

end SpatialFilter.Number
