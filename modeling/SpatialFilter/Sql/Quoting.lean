/-!
# Quoted SQL texts

Identifiers stand between double quotes and literals between single quotes.  A quote inside
the text is doubled, with two exceptions that keep texts which are quoted already: a pair of
quotes is taken as one that is doubled, and quotes right after a backslash are copied.
-/

namespace SpatialFilter.Sql

/-- The text between the quotes.  `escaped` says that the character before the text is a
backslash, or quotes that were copied because they follow one. -/
def escapeQuotes (quote : Char) : (escaped : Bool) → List Char → List Char
  | _, [] => []
  | true, c :: rest =>
    c :: escapeQuotes quote (c == quote || c == '\\') rest
  | false, c :: rest =>
    if c = quote then
      quote :: quote ::
        match rest with
        | [] => []
        | next :: others =>
          if next = quote then escapeQuotes quote false others
          else escapeQuotes quote false (next :: others)
    else c :: escapeQuotes quote (c == '\\') rest

def quoted (quote : Char) (text : String) : String :=
  String.ofList (quote :: escapeQuotes quote false text.toList ++ [quote])

def quoteIdentifier (name : String) : String :=
  quoted '"' name

/-- A table with its schema, both quoted. -/
def tableName (schema table : String) : String :=
  quoteIdentifier schema ++ "." ++ quoteIdentifier table

def textLiteral (text : String) : String :=
  quoted '\x27' text

end SpatialFilter.Sql
