/-!
# Decimal digits

Naturals and 32-bit integers in decimal.  Only the ten ASCII digits count as digits, and
only `+` and `-` as signs.
-/

namespace SpatialFilter.Number

def digitValue (c : Char) : Nat :=
  c.toNat - 48

/-- The number that a run of digits writes, most significant digit first. -/
def ofDigits (digits : List Char) : Nat :=
  digits.foldl (fun value c => 10 * value + digitValue c) 0

/-- The decimal digits of a number, without leading zeros; zero has one digit. -/
def toDigits (value : Nat) : List Char :=
  Nat.toDigits 10 value

/-- An optional sign in front of a numeral: whether it is a minus, and what follows. -/
def splitSign : List Char → Bool × List Char
  | '-' :: rest => (true, rest)
  | '+' :: rest => (false, rest)
  | text => (false, text)

/-- At least one digit, and nothing else. -/
def isDigits (text : List Char) : Bool :=
  !text.isEmpty && text.all Char.isDigit

/-- Reads a whole number: an optional sign and at least one digit, with nothing around. -/
def readInt? (text : List Char) : Option Int :=
  let (negative, digits) := splitSign text
  if isDigits digits then
    some (if negative then -(ofDigits digits : Int) else ofDigits digits)
  else none

/-- The integer as a 32-bit word, if it is in range. -/
def toInt32? (value : Int) : Option Int32 :=
  if -2147483648 ≤ value ∧ value ≤ 2147483647 then some (Int32.ofInt value) else none

def readInt32? (text : List Char) : Option Int32 := do
  toInt32? (← readInt? text)

/-- Decimal text of an integer: a minus for negative values, never a plus. -/
def integerText (value : Int) : String :=
  if value < 0 then "-" ++ String.ofList (toDigits value.natAbs)
  else String.ofList (toDigits value.natAbs)

def int32Text (value : Int32) : String :=
  integerText value.toInt

end SpatialFilter.Number
