import SpatialFilter.Json.Number

/-!
# Values in JSON

Texts, integers and arrays where they are expected, what to say where something else stands,
and values that are passed over whatever they are.
-/

namespace SpatialFilter.Json

open SpatialFilter.Number

/-- What stands at a place where something else was expected.  Arrays and objects are named by
their first character, and everything else is read. -/
def found : Scanner Found := do
  match ← get with
  | [] => throw .malformed
  | c :: rest =>
    match c with
    | 'n' =>
      set rest
      expectLetters ['u', 'l', 'l']
      return .null
    | 't' =>
      set rest
      expectLetters ['r', 'u', 'e']
      return .boolean true
    | 'f' =>
      set rest
      expectLetters ['a', 'l', 's', 'e']
      return .boolean false
    | '"' =>
      set rest
      return .text (← stringContent)
    | '[' => return .sequence
    | '\x7b' => return .map
    | '-' =>
      set rest
      number true
    | c => if c.isDigit then number false else throw .malformed

/-- Reports that something else than `expected` stands at this place. -/
def mismatch {α : Type} (expected : String) : Scanner α := do
  let other ← found
  throw (.misfit (.wrongType other expected))

def text : Scanner String := do
  match ← peek with
  | none => throw .truncated
  | some c =>
    if c = '"' then
      advance
      stringContent
    else mismatch "a string"

def int32 : Scanner Int32 := do
  if (← peek).isNone then throw .truncated
  match ← found with
  | .integer value =>
    match toInt32? value with
    | some word => return word
    | none => throw (.misfit (.outOfRange value "i32"))
  | other => throw (.misfit (.wrongType other "i32"))

def array {α : Type} (expected : String) (item : Scanner α) : Scanner (List α) := do
  match ← peek with
  | none => throw .truncated
  | some c =>
    if c = '[' then
      advance
      let values ← items item (← bound) true
      expectChar ']'
      return values
    else mismatch expected

/-- Passes over a value of any kind, which is nested at most `depth` deep. -/
def skipValue : (depth : Nat) → Scanner Unit
  | 0 => throw .truncated
  | depth + 1 => do
    match ← peek with
    | none => throw .truncated
    | some c =>
      if c.isDigit then return ← skipNumber
      advance
      match c with
      | 'n' => expectLetters ['u', 'l', 'l']
      | 't' => expectLetters ['r', 'u', 'e']
      | 'f' => expectLetters ['a', 'l', 's', 'e']
      | '"' => set (← skipString .plain (← get))
      | '-' => skipNumber
      | '[' =>
        let _ ← items (skipValue depth) (← bound) true
        expectChar ']'
      | '\x7b' =>
        let key : Scanner Unit := do
          advance
          set (← skipString .plain (← get))
        let member (_ _ : Unit) : Scanner Unit := do
          expectChar ':'
          skipValue depth
        members key member (← bound) true ()
        expectChar '\x7d'
      | _ => throw .malformed

/-- Passes over a value of any kind; none is nested deeper than the document is long. -/
def skip : Scanner Unit := do
  skipValue (← bound)

end SpatialFilter.Json
