import Mathlib.Data.List.Basic
import SpatialFilter.Proofs.IntegerTexts
import SpatialFilter.Reference.Name

/-!
# The grammar of names of srids

A name is written in one of the six encodings: its lead, then any segments that each end in the
delimiter, then the srid with a sign or none, between blanks (`NameEncoding.Names`).  No lead begins
another one and each lead ends in its delimiter, so a name is read in the encoding that it was
written in, and its code is what stands behind the last delimiter.  Reading therefore gives a srid
exactly for the names of that srid (`sridOfName_eq_some_iff`).
-/

namespace SpatialFilter

open SpatialFilter.Text
open SpatialFilter.Number

/-! ## Last segments -/

section LastSegment

variable {delimiter : Char}

theorem lastSegment_of_free {text : List Char} (free : delimiter ∉ text) :
    lastSegment delimiter text = text := by
  have one : pieces (fun c => c == delimiter) text = [text] := by
    apply pieces_of_free
    intro c member
    rw [beq_eq_false_iff_ne]
    rintro rfl
    exact free member
  simp [lastSegment, one]

theorem lastSegment_behind (before after : List Char) :
    lastSegment delimiter (before ++ delimiter :: after) = lastSegment delimiter after := by
  have cut := @pieces_append (fun c => c == delimiter) delimiter (beq_self_eq_true delimiter)
    before after
  simp [lastSegment, cut, pieces_ne_nil]

/-- Segments that each end in the delimiter. -/
def AreSegments (delimiter : Char) (segments : List Char) : Prop :=
  segments = [] ∨ ∃ body, segments = body ++ [delimiter]

/-- Segments in front do not change the last one. -/
theorem lastSegment_segments {segments code : List Char}
    (closed : AreSegments delimiter segments) (free : delimiter ∉ code) :
    lastSegment delimiter (segments ++ code) = code := by
  rcases closed with rfl | ⟨body, rfl⟩
  · exact lastSegment_of_free free
  · rw [List.append_assoc, List.singleton_append, lastSegment_behind, lastSegment_of_free free]

/-- A text is made of segments and its last segment. -/
theorem exists_segments (delimiter : Char) (text : List Char) :
    ∃ segments, text = segments ++ lastSegment delimiter text ∧
      AreSegments delimiter segments ∧ delimiter ∉ lastSegment delimiter text := by
  by_cases free : delimiter ∈ text
  · -- The text is cut at its last delimiter.
    obtain ⟨after, before, reversed, after_free⟩ :=
      List.eq_append_cons_of_mem (List.mem_reverse.mpr free)
    have cut : text = before.reverse ++ delimiter :: after.reverse := by
      rw [← List.reverse_reverse text, reversed]
      simp
    have code_free : delimiter ∉ after.reverse := by simpa using after_free
    refine ⟨before.reverse ++ [delimiter], ?_, .inr ⟨_, rfl⟩, ?_⟩
    · rw [cut, lastSegment_behind, lastSegment_of_free code_free, List.append_assoc,
        List.singleton_append]
    · rw [cut, lastSegment_behind, lastSegment_of_free code_free]
      exact code_free
  · exact ⟨[], by rw [lastSegment_of_free free, List.nil_append], .inl rfl,
      by rwa [lastSegment_of_free free]⟩

end LastSegment

/-! ## Names -/

namespace NameEncoding

/-- The name gives the srid in this encoding: behind the lead stand segments that each end in the
delimiter, and then the srid between blanks. -/
def Names (encoding : NameEncoding) (srid : Int32) (name : String) : Prop :=
  ∃ segments before numeral after : List Char,
    name.toList = encoding.lead.toList ++ (segments ++ (before ++ numeral ++ after)) ∧
      AreSegments encoding.delimiter segments ∧
      encoding.delimiter ∉ before ++ numeral ++ after ∧
      AllBlank before ∧ WritesInt srid.toInt numeral ∧ AllBlank after

end NameEncoding

/-- No encoding's lead begins that of another. -/
theorem leads_are_apart : ∀ one ∈ nameEncodings, ∀ other ∈ nameEncodings,
    one.lead.toList <+: other.lead.toList → one = other := by
  decide +kernel

theorem lead_ends_in_delimiter : ∀ encoding ∈ nameEncodings,
    encoding.lead.toList.getLast? = some encoding.delimiter := by
  decide +kernel

theorem lastSegment_lead {encoding : NameEncoding} (known : encoding ∈ nameEncodings)
    (rest : List Char) :
    lastSegment encoding.delimiter (encoding.lead.toList ++ rest) =
      lastSegment encoding.delimiter rest := by
  obtain ⟨body, lead_eq⟩ := List.getLast?_eq_some_iff.mp (lead_ends_in_delimiter encoding known)
  rw [lead_eq, List.append_assoc, List.singleton_append, lastSegment_behind]

/-- A text is read in the only encoding whose lead it begins with. -/
theorem find_encoding_eq_some_iff {encoding : NameEncoding} {text : List Char} :
    (nameEncodings.find? fun encoding => encoding.lead.toList.isPrefixOf text) = some encoding ↔
      encoding ∈ nameEncodings ∧ encoding.lead.toList <+: text := by
  have begins_of_found : ∀ {first}, (nameEncodings.find? fun encoding =>
      encoding.lead.toList.isPrefixOf text) = some first → first.lead.toList <+: text := by
    intro first found
    have begins := List.find?_some found
    exact List.isPrefixOf_iff_prefix.mp begins
  constructor
  · intro found
    exact ⟨List.mem_of_find?_eq_some found, begins_of_found found⟩
  · rintro ⟨known, begins⟩
    cases found : nameEncodings.find? fun encoding => encoding.lead.toList.isPrefixOf text with
    | none =>
      have never := List.find?_eq_none.mp found encoding known
      exact absurd (List.isPrefixOf_iff_prefix.mpr begins) never
    | some first =>
      have first_known := List.mem_of_find?_eq_some found
      rcases List.prefix_or_prefix_of_prefix begins (begins_of_found found) with shorter | longer
      · rw [leads_are_apart encoding known first first_known shorter]
      · rw [leads_are_apart first first_known encoding known longer]

/-- Reading a name gives a srid exactly when the name gives it in one of the encodings. -/
theorem sridOfName_eq_some_iff {name : String} {srid : Int32} :
    sridOfName? name = some srid ↔ ∃ encoding ∈ nameEncodings, encoding.Names srid name := by
  unfold sridOfName?
  simp only [Option.bind_eq_bind, Option.bind_eq_some_iff, find_encoding_eq_some_iff,
    readInt32_eq_some_iff]
  constructor
  · rintro ⟨encoding, ⟨known, rest, name_eq⟩, writes⟩
    rw [← name_eq, lastSegment_lead known] at writes
    obtain ⟨segments, rest_eq, closed, free⟩ := exists_segments encoding.delimiter rest
    obtain ⟨before, after, blank_before, blank_after, code_eq⟩ :=
      exists_around_trim (lastSegment encoding.delimiter rest)
    refine ⟨encoding, known, segments, before, _, after, ?_, closed, ?_, blank_before, writes,
      blank_after⟩
    · rw [← code_eq, ← rest_eq, name_eq]
    · rwa [← code_eq]
  · rintro ⟨encoding, known, segments, before, numeral, after, name_eq, closed, free, blank_before,
      writes, blank_after⟩
    refine ⟨encoding, ⟨known, _, name_eq.symm⟩, ?_⟩
    rw [name_eq, lastSegment_lead known, lastSegment_segments closed free,
      trim_around blank_before blank_after writes.ne_nil writes.noBlank]
    exact writes

end SpatialFilter
