import SpatialFilter.Text.Shown

/-!
# Quoted texts in messages

A message shows a text between double quotes, so that its ends and its blanks can be seen.
Quotes, backslashes and the common controls have short escapes; every other character that is
not shown as itself is written by its code point.
-/

namespace SpatialFilter.Text

def quotedChar (c : Char) : List Char :=
  match c with
  | '"' => ['\\', '"']
  | '\\' => ['\\', '\\']
  | '\n' => ['\\', 'n']
  | '\r' => ['\\', 'r']
  | '\t' => ['\\', 't']
  | '\x00' => ['\\', '0']
  | c =>
    if isShown c then [c]
    else ['\\', 'u', '\x7b'] ++ Nat.toDigits 16 c.toNat ++ ['\x7d']

def quoted (text : String) : String :=
  String.ofList ('"' :: text.toList.flatMap quotedChar ++ ['"'])

end SpatialFilter.Text
