import SpatialFilter.Markup.Fault
import SpatialFilter.Number.Digits
import SpatialFilter.Text.Bytes

/-!
# Entities

In texts and attribute values `&` starts an entity and `;` ends it.  Five entities have names,
and any character but NUL can be written by its code point in decimal or hexadecimal.
-/

namespace SpatialFilter.Markup

open SpatialFilter.Text

def namedEntity? (name : List Char) : Option Char :=
  match String.ofList name with
  | "lt" => some '<'
  | "gt" => some '>'
  | "amp" => some '&'
  | "apos" => some '\x27'
  | "quot" => some '"'
  | _ => none

def isHexDigit (c : Char) : Bool :=
  c.isDigit || ('a' ≤ c && c ≤ 'f') || ('A' ≤ c && c ≤ 'F')

def hexDigitValue (c : Char) : Nat :=
  if c.isDigit then c.toNat - 48 else if c ≤ 'F' then c.toNat - 55 else c.toNat - 87

/-- A code point in decimal, of at most seven bytes. -/
def decimalCode (digits : List Char) : Except EntityFault Nat :=
  if 7 < byteLength digits then .error .longDecimal
  else
    match digits.find? fun c => !c.isDigit with
    | some c => .error (.badDecimal (leadByte c))
    | none => .ok (Number.ofDigits digits)

/-- A code point in hexadecimal, of at most six bytes. -/
def hexadecimalCode (digits : List Char) : Except EntityFault Nat :=
  if 6 < byteLength digits then .error .longHexadecimal
  else
    match digits.find? fun c => !isHexDigit c with
    | some c => .error (.badHexadecimal (leadByte c))
    | none => .ok (digits.foldl (fun value c => 16 * value + hexDigitValue c) 0)

/-- The character of a code point, for an entity between the positions of `&` and `;`. -/
def characterOfCode (start stop code : Nat) : Except EntityFault Char :=
  if code = 0 then .error (.null start stop)
  else if code.isValidChar then .ok (Char.ofNat code)
  else .error (.notCharacter code)

/-- The character of an entity, given what stands between the positions of `&` and `;`. -/
def entityCharacter (start stop : Nat) (name : List Char) : Except EntityFault Char :=
  match name with
  | '#' :: 'x' :: digits => do characterOfCode start stop (← hexadecimalCode digits)
  | '#' :: digits => do characterOfCode start stop (← decimalCode digits)
  | name =>
    match namedEntity? name with
    | some c => .ok c
    | none => .error (.unknown (start + 1) stop (String.ofList name))

/-- Neither character that can end the name of an entity. -/
def inEntityName (c : Char) : Bool :=
  c != ';' && c != '&'

theorem length_dropWhile_le (p : Char → Bool) (text : List Char) :
    (text.dropWhile p).length ≤ text.length :=
  (List.dropWhile_suffix p).length_le

/-- The text with its entities replaced, from a position on; `total` is the length of the
whole text. -/
def unescapeFrom (total position : Nat) (text : List Char) : Except EntityFault (List Char) :=
  match text with
  | [] => .ok []
  | c :: rest =>
    if c = '&' then
      let name := rest.takeWhile inEntityName
      let stop := position + 1 + byteLength name
      match h : rest.dropWhile inEntityName with
      | ';' :: after => do
        let meant ← entityCharacter position stop name
        let others ← unescapeFrom total (stop + 1) after
        return meant :: others
      | _ => .error (.unterminated position total)
    else do
      let others ← unescapeFrom total (position + c.utf8Size) rest
      return c :: others
termination_by text.length
decreasing_by
  · have bound := length_dropWhile_le inEntityName rest
    rw [h] at bound
    simp only [List.length_cons] at bound ⊢
    omega
  · simp

def unescape (text : List Char) : Except Fault (List Char) :=
  (unescapeFrom (byteLength text) 0 text).mapError .badEntity

end SpatialFilter.Markup
