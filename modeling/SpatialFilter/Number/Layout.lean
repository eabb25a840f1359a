import SpatialFilter.Number.Shortest

/-!
# Texts of floating-point numbers

A number is written with the shortest digits that read back to it.  How the digits are laid
out is decided by a `Layout`, which each output format states for itself.
-/

namespace SpatialFilter.Number

/-- The decisions of an output format about its numbers. -/
structure Layout where
  /-- Which of two equally near shortest decimals is written. -/
  tie : Tie
  /-- Positional form is used while the count of places before the point is above the first
  bound and at most the second; without bounds it is always used. -/
  positional : Option (Int × Int)
  /-- What is written after a whole number in positional form. -/
  wholeSuffix : String
  deriving DecidableEq, Repr

namespace Decimal

/-- Positional form: no exponent, and at least one digit before the point. -/
def positional (decimal : Decimal) (wholeSuffix : String) : String :=
  let digits := toDigits decimal.significand
  let places := (-decimal.exponent).toNat
  if 0 ≤ decimal.exponent then
    String.ofList (digits ++ List.replicate decimal.exponent.toNat '0') ++ wholeSuffix
  else if places < digits.length then
    String.ofList (digits.take (digits.length - places)) ++ "." ++
      String.ofList (digits.drop (digits.length - places))
  else
    "0." ++ String.ofList (List.replicate (places - digits.length) '0' ++ digits)

/-- The text of an exponent, whose sign is always written. -/
def exponentText (exponent : Int) : String :=
  if 0 ≤ exponent then "+" ++ integerText exponent else integerText exponent

/-- Exponent form: one digit before the point, and a sign in the exponent. -/
def scientific (decimal : Decimal) : String :=
  let digits := toDigits decimal.significand
  let exponent := exponentText (decimal.exponent + (digits.length - 1 : Nat))
  match digits with
  | first :: second :: others =>
    String.ofList (first :: '.' :: second :: others) ++ "e" ++ exponent
  | digits => String.ofList digits ++ "e" ++ exponent

/-- The decimal in the form that the layout chooses for it. -/
def render (decimal : Decimal) (layout : Layout) : String :=
  let point := decimal.exponent + (toDigits decimal.significand).length
  match layout.positional with
  | none => decimal.positional layout.wholeSuffix
  | some (above, upTo) =>
    if above < point ∧ point ≤ upTo then decimal.positional layout.wholeSuffix
    else decimal.scientific

end Decimal

def magnitudeText (layout : Layout) (rank : Nat) : String :=
  if rank = 0 then "0" ++ layout.wholeSuffix
  else if rank = infinityRank then "inf"
  else (shortest layout.tie rank).render layout

/-- The text of a number: zero keeps its sign, and NaN has none. -/
def Binary64.render (layout : Layout) : Binary64 → String
  | .nan => "NaN"
  | .ranked true rank _ => "-" ++ magnitudeText layout rank
  | .ranked false rank _ => magnitudeText layout rank

/-- Always positional, without a point in whole numbers. -/
def plainLayout : Layout :=
  ⟨.up, none, ""⟩

def Binary64.text (value : Binary64) : String :=
  value.render plainLayout

end SpatialFilter.Number
