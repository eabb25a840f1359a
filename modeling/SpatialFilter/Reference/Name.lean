import SpatialFilter.Number.Digits
import SpatialFilter.Text.Blank

/-!
# Names of spatial references

A request names a reference in one of six encodings.  Each starts with a fixed text and ends
with the code after a delimiter, so that version segments may stand between the two, as in
`urn:ogc:def:crs:EPSG:6.3:4326`.
-/

namespace SpatialFilter

/-- One way to write the name of a reference. -/
structure NameEncoding where
  /-- What every name in this encoding starts with. -/
  lead : String
  /-- What separates the code from the segments before it. -/
  delimiter : Char
  deriving DecidableEq, Repr

/-- The encodings that are understood. -/
def nameEncodings : List NameEncoding :=
  [⟨"http://www.opengis.net/gml/srs/epsg.xml#", '#'⟩,
    ⟨"http://www.epsg.org/", '/'⟩,
    ⟨"EPSG:", ':'⟩,
    ⟨"urn:EPSG:geographicCRC:", ':'⟩,
    ⟨"urn:ogc:def:crs:EPSG:", ':'⟩,
    ⟨"urn:x-ogc:def:crs:EPSG:", ':'⟩]

/-- The segment after the last delimiter, or the whole text where there is none. -/
def lastSegment (delimiter : Char) (text : List Char) : List Char :=
  (Text.pieces (fun c => c == delimiter) text).getLast (Text.pieces_ne_nil _ _)

/-- The srid that a name gives: its last segment, blanks around it aside. -/
def sridOfName? (name : String) : Option Int32 := do
  let encoding ← nameEncodings.find? fun encoding =>
    encoding.lead.toList.isPrefixOf name.toList
  Number.readInt32? (Text.trim (lastSegment encoding.delimiter name.toList))

end SpatialFilter
