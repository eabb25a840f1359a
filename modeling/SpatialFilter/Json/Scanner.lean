import SpatialFilter.Json.Fault
import SpatialFilter.Text.Bytes

/-!
# Scanning JSON

A scanner reads a value off the front of a document.  Documents are read in one pass from left
to right, and the first fault in this order is the one that is reported.
-/

namespace SpatialFilter.Json

/-- Reads something off the front of a document. -/
abbrev Scanner := StateT (List Char) (Except Fault)

def isBlank (c : Char) : Bool :=
  c == ' ' || c == '\n' || c == '\t' || c == '\r'

/-- The next character after blanks, which is left in place. -/
def peek : Scanner (Option Char) := do
  modify (List.dropWhile isBlank)
  return (← get).head?

def advance : Scanner Unit :=
  modify List.tail

/-- The rest of a literal such as `null`, after its first character. -/
def expectLetters : List Char → Scanner Unit
  | [] => pure ()
  | expected :: others => do
    match ← get with
    | [] => throw .truncated
    | c :: rest =>
      if c = expected then
        set rest
        expectLetters others
      else throw .malformed

def hexValue? (c : Char) : Option Nat :=
  if '0' ≤ c ∧ c ≤ '9' then some (c.toNat - 48)
  else if 'a' ≤ c ∧ c ≤ 'f' then some (c.toNat - 87)
  else if 'A' ≤ c ∧ c ≤ 'F' then some (c.toNat - 55)
  else none

def simpleEscape? (c : Char) : Option Char :=
  match c with
  | '"' => some '"'
  | '\\' => some '\\'
  | '/' => some '/'
  | 'b' => some '\x08'
  | 'f' => some '\x0c'
  | 'n' => some '\n'
  | 'r' => some '\r'
  | 't' => some '\t'
  | _ => none

/-- There is room for the four digits of a code unit, counted in bytes of UTF-8. -/
def hasFourBytes (text : List Char) : Bool :=
  decide (4 ≤ Text.byteLength (text.take 4))

def isHighSurrogate (unit : Nat) : Bool :=
  decide (0xD800 ≤ unit) && decide (unit ≤ 0xDBFF)

def isLowSurrogate (unit : Nat) : Bool :=
  decide (0xDC00 ≤ unit) && decide (unit ≤ 0xDFFF)

def pairChar (high low : Nat) : Char :=
  Char.ofNat ((high - 0xD800) * 0x400 + (low - 0xDC00) + 0x10000)

/-- Where a scan of a string stands. -/
inductive StringState where
  /-- Between characters. -/
  | plain
  /-- After a backslash. -/
  | escape
  /-- Inside the digits of a code unit: how many are missing, the value so far, and the first
  half of a pair that came before. -/
  | unit (missing value : Nat) (high : Option Nat)
  /-- After the first half of a pair, whose second half must follow. -/
  | afterHigh (high : Nat)
  /-- After the backslash of the second half. -/
  | pairEscape (high : Nat)

/-- What a code unit is once its digits are read: a character, or the first half of a pair. -/
def closeUnit (value : Nat) : Option Nat → Except Fault (Option Char × StringState)
  | none =>
    if isLowSurrogate value then .error .malformed
    else if isHighSurrogate value then .ok (none, .afterHigh value)
    else .ok (some (Char.ofNat value), .plain)
  | some high =>
    if isLowSurrogate value then .ok (some (pairChar high value), .plain)
    else .error .malformed

/-- The content of a string up to its closing quote, and what follows the quote. -/
def scanString : StringState → List Char → Except Fault (List Char × List Char)
  | _, [] => .error .truncated
  | .plain, c :: rest =>
    if c = '"' then .ok ([], rest)
    else if c = '\\' then scanString .escape rest
    else if c < ' ' then .error .malformed
    else do
      let (content, after) ← scanString .plain rest
      return (c :: content, after)
  | .escape, c :: rest =>
    if c = 'u' then
      if hasFourBytes rest then scanString (.unit 4 0 none) rest else .error .truncated
    else
      match simpleEscape? c with
      | none => .error .malformed
      | some meant => do
        let (content, after) ← scanString .plain rest
        return (meant :: content, after)
  | .unit missing value high, c :: rest =>
    match hexValue? c with
    | none => .error .malformed
    | some digit =>
      if missing = 1 then do
        let (closed, state) ← closeUnit (16 * value + digit) high
        let (content, after) ← scanString state rest
        return (closed.toList ++ content, after)
      else scanString (.unit (missing - 1) (16 * value + digit) high) rest
  | .afterHigh high, c :: rest =>
    if c = '\\' then scanString (.pairEscape high) rest else .error .malformed
  | .pairEscape high, c :: rest =>
    if c = 'u' then
      if hasFourBytes rest then scanString (.unit 4 0 (some high)) rest else .error .truncated
    else .error .malformed

/-- The content of a string whose opening quote has been passed. -/
def stringContent : Scanner String := do
  let (content, after) ← scanString .plain (← get)
  set after
  return String.ofList content

/-- Passes to what follows a string; its escapes need not make sense as characters. -/
def skipString : StringState → List Char → Except Fault (List Char)
  | _, [] => .error .truncated
  | .escape, c :: rest =>
    if c = 'u' then
      if hasFourBytes rest then skipString (.unit 4 0 none) rest else .error .truncated
    else if (simpleEscape? c).isNone then .error .malformed
    else skipString .plain rest
  | .unit missing _ _, c :: rest =>
    if (hexValue? c).isNone then .error .malformed
    else if missing = 1 then skipString .plain rest
    else skipString (.unit (missing - 1) 0 none) rest
  | _, c :: rest =>
    if c = '"' then .ok rest
    else if c = '\\' then skipString .escape rest
    else if c < ' ' then .error .malformed
    else skipString .plain rest

/-- Whether an array has a further item, whose first character is then the next one.  A comma
before it is passed. -/
def nextItem (isFirst : Bool) : Scanner Bool := do
  match ← peek with
  | none => throw .truncated
  | some c =>
    if c = ']' then return false
    else if isFirst then return true
    else if c = ',' then
      advance
      match ← peek with
      | none => throw .truncated
      | some c => if c = ']' then throw .malformed else return true
    else throw .malformed

/-- Whether an object has a further member, whose key's quote is then the next character.  A
comma before it is passed. -/
def nextMember (isFirst : Bool) : Scanner Bool := do
  match ← peek with
  | none => throw .truncated
  | some c =>
    if c = '\x7d' then return false
    else if isFirst then
      if c = '"' then return true else throw .malformed
    else if c = ',' then
      advance
      match ← peek with
      | none => throw .truncated
      | some c => if c = '"' then return true else throw .malformed
    else throw .malformed

/-- Passes one character that has to come next. -/
def expectChar (expected : Char) : Scanner Unit := do
  match ← peek with
  | none => throw .truncated
  | some c => if c = expected then advance else throw .malformed

/-- The items of an array, each read by `item`, up to its closing bracket.  There are fewer of
them than characters, which bounds the run. -/
def items {α : Type} (item : Scanner α) : (bound : Nat) → (isFirst : Bool) → Scanner (List α)
  | 0, _ => throw .truncated
  | bound + 1, isFirst => do
    if ← nextItem isFirst then
      let value ← item
      let others ← items item bound false
      return value :: others
    else return []

/-- The members of an object up to its closing brace: `key` reads each key and `member` goes
on from it, with its colon passed by `member` itself. -/
def members {σ κ : Type} (key : Scanner κ) (member : σ → κ → Scanner σ) :
    (bound : Nat) → (isFirst : Bool) → σ → Scanner σ
  | 0, _, _ => throw .truncated
  | bound + 1, isFirst, state => do
    if ← nextMember isFirst then
      let name ← key
      let next ← member state name
      members key member bound false next
    else return state

/-- A bound on the number of items or members ahead. -/
def bound : Scanner Nat := do
  return (← get).length + 1

def keyText : Scanner String := do
  advance
  stringContent

end SpatialFilter.Json
