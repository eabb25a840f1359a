import SpatialFilter.Number.Decimal

/-!
# The shortest decimal that reads back

For one digit, two digits and so on up to seventeen, the two neighbours of a value on that
decimal grid are compared with it in exact arithmetic.  The first grid on which a neighbour
reads back to the value wins; of two neighbours that do, the nearer.  Whatever is answered
reads back: if no grid had a hit, the exact expansion of the value would be the answer.
-/

namespace SpatialFilter.Number

/-- Which of two equally near decimals is taken. -/
inductive Tie where
  | up
  | even
  deriving DecidableEq, Repr

/-- The exact expansion of a finite magnitude, which ends because the unit is a power of two. -/
def exactDecimal (rank : Nat) : Decimal :=
  ⟨units rank * Nat.pow 5 1074, -1074⟩

/-- The number of places before the point that the magnitude fills; zero or less when it
starts after the point.  The magnitude must not be zero. -/
def leadingPlace (rank : Nat) : Int :=
  (toDigits (units rank * Nat.pow 10 400 / unitsPerOne)).length - 400

/-- The neighbour of the magnitude on the grid of multiples of `10 ^ exponent` that reads back
to it, if there is one. -/
def gridNeighbour? (tie : Tie) (rank : Nat) (exponent : Int) : Option Decimal :=
  let numerator := units rank * Nat.pow 10 (-exponent).toNat
  let denominator := unitsPerOne * Nat.pow 10 exponent.toNat
  let low : Decimal := ⟨numerator / denominator, exponent⟩
  let high : Decimal := ⟨numerator / denominator + 1, exponent⟩
  let twice := 2 * (numerator % denominator)
  let lowIsNearer := twice < denominator ∨
    (twice = denominator ∧ tie = .even ∧ low.significand % 2 = 0)
  if low.rank = rank ∧ (high.rank = rank → lowIsNearer) then some low
  else if high.rank = rank then some high
  else none

/-- The shortest decimal that reads back to a finite magnitude other than zero. -/
def shortest (tie : Tie) (rank : Nat) : Decimal :=
  let found := (List.range 17).findSome? fun count : Nat =>
    gridNeighbour? tie rank (leadingPlace rank - (count + 1 : Nat))
  (found.getD (exactDecimal rank)).stripped

end SpatialFilter.Number
