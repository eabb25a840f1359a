import Mathlib.Data.List.Find
import SpatialFilter.Proofs.SridNames

/-!
# What a name gives

A name is read in two steps: its lead tells the encoding, and its code is what stands behind the
last delimiter.  The whole name is cut for that, lead included, but a lead ends in its delimiter, so
that the code is always a segment of what follows the lead (`sridOfName_behind_lead`).  The main
statement says which names give a srid, and that neither the segments in front of the code nor the
order of the encodings can change it (`code_is_last_segment_behind_lead`).
-/

namespace SpatialFilter

open SpatialFilter.Text
open SpatialFilter.Number

/-- The segment is what stands behind the last delimiter of the text, or the whole text where there
is no delimiter. -/
inductive IsLastSegment (delimiter : Char) : (text segment : List Char) → Prop
  | whole {text : List Char} (free : delimiter ∉ text) : IsLastSegment delimiter text text
  | behind {before segment : List Char} (free : delimiter ∉ segment) :
    IsLastSegment delimiter (before ++ delimiter :: segment) segment

/-- The last segment is what is cut off behind the last delimiter. -/
theorem isLastSegment_iff {delimiter : Char} {text segment : List Char} :
    IsLastSegment delimiter text segment ↔ lastSegment delimiter text = segment := by
  constructor
  · intro last
    cases last with
    | whole free => exact lastSegment_of_free free
    | behind free => rw [lastSegment_behind, lastSegment_of_free free]
  · rintro rfl
    obtain ⟨segments, text_eq, closed, free⟩ := exists_segments delimiter text
    rcases closed with rfl | ⟨body, rfl⟩
    · rw [List.nil_append] at text_eq
      rw [← text_eq] at free ⊢
      exact .whole free
    · rw [List.append_assoc, List.singleton_append] at text_eq
      have last := @IsLastSegment.behind delimiter body _ free
      rwa [← text_eq] at last

/-- The srid that a name gives where the encodings are tried in the order of a table. -/
def sridByTable? (table : List NameEncoding) (name : String) : Option Int32 := do
  let encoding ← table.find? fun encoding => encoding.lead.toList.isPrefixOf name.toList
  readInt32? (trim (lastSegment encoding.delimiter name.toList))

/-- Since no lead begins another one, it does not matter which encoding is tried first. -/
theorem sridByTable_of_perm {table : List NameEncoding} (reordered : table.Perm nameEncodings)
    (name : String) : sridByTable? table name = sridOfName? name := by
  have at_most_one : {encoding ∈ table |
      encoding.lead.toList.isPrefixOf name.toList}.Subsingleton := by
    rintro one ⟨one_listed, one_begins⟩ other ⟨other_listed, other_begins⟩
    have one_known := reordered.mem_iff.mp one_listed
    have other_known := reordered.mem_iff.mp other_listed
    rw [List.isPrefixOf_iff_prefix] at one_begins other_begins
    rcases List.prefix_or_prefix_of_prefix one_begins other_begins with shorter | longer
    · exact leads_are_apart one one_known other other_known shorter
    · exact (leads_are_apart other other_known one one_known longer).symm
  unfold sridByTable? sridOfName?
  rw [List.find?_eq_find?_of_perm reordered at_most_one]

/-- Behind the lead of an encoding, the last segment is read, whatever the lead is. -/
theorem sridOfName_behind_lead {encoding : NameEncoding} (known : encoding ∈ nameEncodings)
    {name : String} {rest segment : List Char}
    (name_eq : name.toList = encoding.lead.toList ++ rest)
    (last : IsLastSegment encoding.delimiter rest segment) :
    sridOfName? name = readInt32? (trim segment) := by
  have begins : encoding.lead.toList <+: name.toList := ⟨rest, name_eq.symm⟩
  have found := find_encoding_eq_some_iff.mpr ⟨known, begins⟩
  unfold sridOfName?
  rw [found, Option.bind_eq_bind, Option.bind_some, name_eq, lastSegment_lead known,
    isLastSegment_iff.mp last]

theorem exists_lead_of_sridOfName {name : String} {srid : Int32}
    (named : sridOfName? name = some srid) :
    ∃ encoding ∈ nameEncodings, ∃ rest segment, name.toList = encoding.lead.toList ++ rest ∧
      IsLastSegment encoding.delimiter rest segment := by
  obtain ⟨encoding, found, -⟩ := Option.bind_eq_some_iff.mp named
  obtain ⟨known, rest, name_eq⟩ := find_encoding_eq_some_iff.mp found
  exact ⟨encoding, known, rest, _, name_eq.symm, isLastSegment_iff.mpr rfl⟩

/-- A name gives a srid exactly when it starts with the lead of an encoding and the last segment
behind that lead is, blanks around it aside, the srid with a sign or without one.  Nothing of the
lead is read as a code, the segments between the lead and the code do not matter, and neither does
the order of the encodings. -/
theorem code_is_last_segment_behind_lead :
    (∀ name srid, sridOfName? name = some srid ↔
      ∃ encoding ∈ nameEncodings, ∃ rest segment,
        name.toList = encoding.lead.toList ++ rest ∧
          IsLastSegment encoding.delimiter rest segment ∧
          WritesInt srid.toInt (trim segment)) ∧
      (∀ encoding ∈ nameEncodings, ∀ name rest segment,
        name.toList = encoding.lead.toList ++ rest →
          IsLastSegment encoding.delimiter rest segment →
          sridOfName? name = readInt32? (trim segment)) ∧
      (∀ encoding ∈ nameEncodings, ∀ versions code : String,
        sridOfName? (encoding.lead ++ versions ++ String.singleton encoding.delimiter ++ code) =
          sridOfName? (encoding.lead ++ code)) ∧
      ∀ table : List NameEncoding, table.Perm nameEncodings →
        ∀ name, sridByTable? table name = sridOfName? name := by
  refine ⟨?_, ?_, ?_, fun table reordered => sridByTable_of_perm reordered⟩
  · intro name srid
    constructor
    · intro named
      obtain ⟨encoding, known, rest, segment, name_eq, last⟩ := exists_lead_of_sridOfName named
      rw [sridOfName_behind_lead known name_eq last, readInt32_eq_some_iff] at named
      exact ⟨encoding, known, rest, segment, name_eq, last, named⟩
    · rintro ⟨encoding, known, rest, segment, name_eq, last, writes⟩
      rw [sridOfName_behind_lead known name_eq last, readInt32_eq_some_iff]
      exact writes
  · intro encoding known name rest segment name_eq last
    exact sridOfName_behind_lead known name_eq last
  · intro encoding known versions code
    have last : IsLastSegment encoding.delimiter code.toList
        (lastSegment encoding.delimiter code.toList) := isLastSegment_iff.mpr rfl
    have versioned : IsLastSegment encoding.delimiter
        (versions.toList ++ encoding.delimiter :: code.toList)
        (lastSegment encoding.delimiter code.toList) := by
      rw [isLastSegment_iff, lastSegment_behind]
    rw [sridOfName_behind_lead known (by simp) versioned,
      sridOfName_behind_lead known (by simp) last]

/-- A version, a no-break space and a sign do not hide the code, in whatever order the encodings
are tried. -/
theorem versioned_name_gives_srid :
    sridOfName? "urn:ogc:def:crs:EPSG:6.3:\u00A0+027700 " = some 27700 ∧
      sridByTable? nameEncodings.reverse "http://www.epsg.org/6.3/27700" = some 27700 := by
  obtain ⟨gives, behind, versions, tables⟩ := code_is_last_segment_behind_lead
  have last : IsLastSegment ':' "6.3:\u00A0+027700 ".toList "\u00A0+027700 ".toList :=
    @IsLastSegment.behind ':' "6.3".toList _ (by decide +kernel)
  have writes : WritesInt (27700 : Int32).toInt (trim "\u00A0+027700 ".toList) :=
    readInt32_eq_some_iff.mp (by decide +kernel)
  refine ⟨?_, ?_⟩
  · exact (gives _ _).mpr ⟨⟨"urn:ogc:def:crs:EPSG:", ':'⟩, by decide, _, _, by decide +kernel,
      last, writes⟩
  · rw [tables _ nameEncodings.reverse_perm]
    have versioned := versions ⟨"http://www.epsg.org/", '/'⟩ (by decide) "6.3" "27700"
    have text_eq : "http://www.epsg.org/" ++ "6.3" ++ String.singleton '/' ++ "27700" =
        "http://www.epsg.org/6.3/27700" := by decide +kernel
    rw [← text_eq, versioned]
    decide +kernel

end SpatialFilter
