import SpatialFilter.Filter.Error
import SpatialFilter.Number.Numeral
import SpatialFilter.Text.Blank

/-!
# Coordinate texts

Numbers, positions of two numbers, and lists of coordinates in which either the numbers of a
position are separated by commas and positions by blanks, or the other way round.  Which of
the two it is shows at the first separator.
-/

namespace SpatialFilter

open SpatialFilter.Number

/-- A finite number, blanks around it aside. -/
def readNumber (text : List Char) : Except FilterError Binary64 :=
  let trimmed := Text.trim text
  match Binary64.read? trimmed with
  | some value =>
    if value.isFinite then .ok value else .error (.malformedNumber (String.ofList trimmed))
  | none => .error (.malformedNumber (String.ofList trimmed))

structure Corner where
  x : Binary64
  y : Binary64
  deriving DecidableEq, Repr

/-- A position: its first two words are the coordinates. -/
def readPosition (text : List Char) : Except FilterError Corner :=
  match Text.words text with
  | x :: y :: _ => do return ⟨← readNumber x, ← readNumber y⟩
  | _ => .error (.structural (.notTwoCoordinates (String.ofList (Text.trim text))))

/-- Characters that a numeral can be written with. -/
def isNumeralChar (c : Char) : Bool :=
  c.isDigit || c == 'e' || c == 'E' || c == '.' || c == '+' || c == '-'

/-- The text starts with characters of a numeral and then a comma. -/
def commaLeads (text : List Char) : Bool :=
  !(text.takeWhile isNumeralChar).isEmpty &&
    (text.dropWhile isNumeralChar).head? == some ','

def swapSeparator (c : Char) : Char :=
  if c = ' ' then ',' else if c = ',' then ' ' else c

/-- Coordinates with commas between positions: where a comma comes first, commas and blanks
change places, and any other text is left alone. -/
def normalizeCoordinates (text : List Char) : List Char :=
  if commaLeads text then text.map swapSeparator else text

end SpatialFilter
