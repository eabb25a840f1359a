import SpatialFilter.Configuration.Basic
import SpatialFilter.Number.Digits

/-!
# Writing configurations

A configuration is written as one JSON object with all members present and in a fixed order,
without blanks between tokens.
-/

namespace SpatialFilter.Configuration

open SpatialFilter.Number

/-- The four digits of a control character's code. -/
def controlDigits (c : Char) : List Char :=
  ['0', '0'] ++ [Nat.digitChar (c.toNat / 16), Nat.digitChar (c.toNat % 16)]

/-- What stands for one character of a string. -/
def encodeChar (c : Char) : List Char :=
  match c with
  | '"' => ['\\', '"']
  | '\\' => ['\\', '\\']
  | '\x08' => ['\\', 'b']
  | '\x0c' => ['\\', 'f']
  | '\n' => ['\\', 'n']
  | '\r' => ['\\', 'r']
  | '\t' => ['\\', 't']
  | c => if c < ' ' then ['\\', 'u'] ++ controlDigits c else [c]

def writeText (content : String) : List Char :=
  '"' :: content.toList.flatMap encodeChar ++ ['"']

/-- Parts with commas between them. -/
def separated : List (List Char) → List Char
  | [] => []
  | [part] => part
  | part :: others => part ++ ',' :: separated others

def writeArray (values : List (List Char)) : List Char :=
  '[' :: separated values ++ [']']

def writeObject (fields : List (String × List Char)) : List Char :=
  '\x7b' :: separated (fields.map fun (key, value) => writeText key ++ ':' :: value) ++ ['\x7d']

def writeLayer (layer : Layer) : List Char :=
  writeObject [
    ("name", writeText layer.name),
    ("schema", writeText layer.schema),
    ("srid", (int32Text layer.srid).toList),
    ("unit", writeText layer.unit.name),
    ("geometry_columns", writeArray (layer.geometryColumns.map writeText))]

def write (configuration : Configuration) : String :=
  String.ofList (writeObject [("layers", writeArray (configuration.layers.map writeLayer))])

end SpatialFilter.Configuration
