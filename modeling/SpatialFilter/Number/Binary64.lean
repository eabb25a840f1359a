/-!
# Binary floating point of 64 bits

A value is NaN, or a sign and a *rank*: the place of the magnitude in the increasing list of
all magnitudes, from 0 for zero to `infinityRank`.  The rank is the bit pattern without its
sign bit, and one rank more is the next larger magnitude, so order and neighbours can be read
off ranks.  Every finite magnitude is a whole number of units of 2⁻¹⁰⁷⁴, and all arithmetic
here is exact in those units and rounded once, to the nearest value and on a tie to the even
one.  NaN has no payload and no sign.
-/

namespace SpatialFilter.Number

/-- How many magnitudes share an exponent: one for each pattern of the 52 lower bits. -/
def ranksPerExponent : Nat := 0x10000000000000

/-- The rank of infinity: all exponent bits set. -/
def infinityRank : Nat := 2047 * ranksPerExponent

/-- A floating-point number. -/
inductive Binary64 where
  | nan
  | ranked (negative : Bool) (rank : Nat) (rank_le : rank ≤ infinityRank)
  deriving DecidableEq, Repr

/-- How often the unit has to be doubled to give the spacing at this rank. -/
def doublings (rank : Nat) : Nat :=
  rank / ranksPerExponent - 1

/-- The magnitude of a finite rank, counted in units of 2⁻¹⁰⁷⁴. -/
def units (rank : Nat) : Nat :=
  (rank - doublings rank * ranksPerExponent) * Nat.pow 2 (doublings rank)

/-- How many units make one. -/
def unitsPerOne : Nat := Nat.pow 2 1074

/-- The quotient rounded to the nearest whole number, a tie to the even one. -/
def roundQuotient (numerator denominator : Nat) : Nat :=
  let quotient := numerator / denominator
  let twice := 2 * (numerator % denominator)
  if twice < denominator then quotient
  else if denominator < twice then quotient + 1
  else quotient + quotient % 2

/-- The rank nearest to `numerator / denominator` units: the spacing is chosen so that 53
bits remain, and what is beyond the largest finite magnitude becomes infinity. -/
def nearestRank (numerator denominator : Nat) : Nat :=
  let spacing := (numerator / denominator).log2 - 52
  min (spacing * ranksPerExponent + roundQuotient numerator (denominator * Nat.pow 2 spacing))
    infinityRank

namespace Binary64

/-- The value nearest to a non-negative fraction of units, with a sign. -/
def ofUnits (negative : Bool) (numerator denominator : Nat) : Binary64 :=
  .ranked negative (nearestRank numerator denominator) (Nat.min_le_right ..)

def zero (negative : Bool) : Binary64 :=
  .ranked negative 0 (Nat.zero_le _)

def infinity (negative : Bool) : Binary64 :=
  .ranked negative infinityRank (Nat.le_refl _)

/-- The finite value of largest magnitude, with a sign. -/
def extreme (negative : Bool) : Binary64 :=
  .ranked negative (infinityRank - 1) (Nat.sub_le ..)

def isFinite : Binary64 → Bool
  | .nan => false
  | .ranked _ rank _ => decide (rank < infinityRank)

def isInfinite : Binary64 → Bool
  | .nan => false
  | .ranked _ rank _ => decide (rank = infinityRank)

/-- The place of a value in the order of values, where both zeros are one; NaN has none. -/
def place? : Binary64 → Option Int
  | .nan => none
  | .ranked true rank _ => some (-(rank : Int))
  | .ranked false rank _ => some rank

/-- Strictly smaller; false whenever NaN takes part. -/
def lt (x y : Binary64) : Bool :=
  match x.place?, y.place? with
  | some a, some b => decide (a < b)
  | _, _ => false

/-- Smaller or equal; false whenever NaN takes part. -/
def le (x y : Binary64) : Bool :=
  match x.place?, y.place? with
  | some a, some b => decide (a ≤ b)
  | _, _ => false

/-- The smaller value; NaN yields to the other argument, and of two zeros the second is taken. -/
def smaller (x y : Binary64) : Binary64 :=
  match x with
  | .nan => y
  | x => if y.le x then y else x

/-- The larger value; NaN yields to the other argument, and of two zeros the second is taken. -/
def larger (x y : Binary64) : Binary64 :=
  match x with
  | .nan => y
  | x => if x.le y then y else x

def negate : Binary64 → Binary64
  | .nan => .nan
  | .ranked negative rank rank_le => .ranked (!negative) rank rank_le

/-- The rounded product.  Zero times infinity is NaN. -/
def mul : Binary64 → Binary64 → Binary64
  | .ranked s x _, .ranked t y _ =>
    if x = infinityRank ∨ y = infinityRank then
      if x = 0 ∨ y = 0 then .nan else infinity (s != t)
    else ofUnits (s != t) (units x * units y) unitsPerOne
  | _, _ => .nan

/-- The rounded quotient.  Zero by zero and infinity by infinity are NaN. -/
def div : Binary64 → Binary64 → Binary64
  | .ranked s x _, .ranked t y _ =>
    if x = infinityRank then
      if y = infinityRank then .nan else infinity (s != t)
    else if y = infinityRank then zero (s != t)
    else if y = 0 then
      if x = 0 then .nan else infinity (s != t)
    else ofUnits (s != t) (units x * unitsPerOne) (units y)
  | _, _ => .nan

/-- The bit pattern as a natural number: the sign bit, then the rank.  NaN has none. -/
def bits? : Binary64 → Option Nat
  | .nan => none
  | .ranked negative rank _ => some (if negative then 0x8000000000000000 + rank else rank)

end Binary64

end SpatialFilter.Number
