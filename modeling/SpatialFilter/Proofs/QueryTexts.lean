import Mathlib.Data.List.Basic
import SpatialFilter.Proofs.IntegerTexts
import SpatialFilter.Proofs.QuotedTexts
import SpatialFilter.Reference.Lookup

/-!
# Texts of catalog queries

A database that knows a query by its text can tell the three kinds of catalog queries apart, since
they differ in their seventeenth character, and can tell the srid that a query asks for.  The
authority of a query is known as well where it has no quotes (`queryByCode_inj`): quoting is not
injective, since a quote and a pair of quotes are written alike, but nothing else is written as a
text without quotes is.
-/

namespace SpatialFilter

open SpatialFilter.Number

namespace Sql

/-- A text without quotes is written as it is, and no other text is written like it. -/
theorem escapeQuotes_eq_iff {quote : Char} {plain : List Char} (free : quote ∉ plain)
    (escaped : Bool) (text : List Char) :
    escapeQuotes quote escaped text = plain ↔ text = plain := by
  induction text generalizing plain escaped with
  | nil => simp [escapeQuotes]
  | cons c rest ih =>
    by_cases same : c = quote
    · -- The first character written is a quote.
      subst same
      have quoted : c ∈ escapeQuotes c escaped (c :: rest) := by
        cases escaped with
        | true => simp [escapeQuotes]
        | false =>
          rw [escapeQuotes.eq_def]
          simp
      constructor
      · intro written
        rw [written] at quoted
        exact absurd quoted free
      · rintro rfl
        exact absurd List.mem_cons_self free
    · rw [escapeQuotes_other same]
      cases plain with
      | nil => simp
      | cons d others =>
        have later : quote ∉ others := fun member => free (List.mem_cons_of_mem d member)
        rw [List.cons.injEq, List.cons.injEq, ih later]

theorem toList_textLiteral (text : String) :
    (textLiteral text).toList =
      '\x27' :: (escapeQuotes '\x27' false text.toList ++ ['\x27']) := by
  simp [textLiteral, quoted]

end Sql

namespace SpatialReference

/-! ## Kinds of queries -/

theorem queryByCode_mark (authority : String) (code : Int32) :
    (queryByCode authority code).toList[16]? = some 'j' := by
  unfold queryByCode
  rw [String.toList_append, String.toList_append, String.toList_append, List.append_assoc,
    List.append_assoc, String.toList_ofList]
  rfl

theorem queryBySrid_mark (srid : Int32) : (queryBySrid srid).toList[16]? = some ',' := by
  unfold queryBySrid
  rw [String.toList_append, String.toList_ofList]
  rfl

theorem queryLabel_mark (srid : Int32) : (queryLabel srid).toList[16]? = some '|' := by
  unfold queryLabel
  rw [String.toList_append, String.toList_ofList]
  rfl

/-- No query by code is a query by srid. -/
theorem queryByCode_ne_queryBySrid (authority : String) (code srid : Int32) :
    queryByCode authority code ≠ queryBySrid srid := by
  intro same
  have marks := queryByCode_mark authority code
  rw [same, queryBySrid_mark] at marks
  cases marks

theorem queryByCode_ne_queryLabel (authority : String) (code srid : Int32) :
    queryByCode authority code ≠ queryLabel srid := by
  intro same
  have marks := queryByCode_mark authority code
  rw [same, queryLabel_mark] at marks
  cases marks

theorem queryBySrid_ne_queryLabel (srid other : Int32) : queryBySrid srid ≠ queryLabel other := by
  intro same
  have marks := queryBySrid_mark srid
  rw [same, queryLabel_mark] at marks
  cases marks

/-- Every catalog query names the catalog. -/
theorem occursIn_queryBySrid (srid : Int32) :
    Text.occursIn "FROM spatial_ref_sys WHERE".toList (queryBySrid srid).toList = true := by
  unfold queryBySrid
  rw [String.toList_append, String.toList_ofList, String.toList_ofList]
  exact Text.occursIn_append_of_occursIn (by decide) _

theorem occursIn_queryByCode (authority : String) (code : Int32) :
    Text.occursIn "FROM spatial_ref_sys WHERE".toList (queryByCode authority code).toList =
      true := by
  unfold queryByCode
  rw [String.toList_append, String.toList_append, String.toList_append, List.append_assoc,
    List.append_assoc, String.toList_ofList, String.toList_ofList]
  exact Text.occursIn_append_of_occursIn (by decide) _

theorem occursIn_queryLabel (srid : Int32) :
    Text.occursIn "FROM spatial_ref_sys WHERE".toList (queryLabel srid).toList = true := by
  unfold queryLabel
  rw [String.toList_append, String.toList_ofList, String.toList_ofList]
  exact Text.occursIn_append_of_occursIn (by decide) _

/-! ## What queries ask for -/

/-- A query by srid tells its srid. -/
theorem queryBySrid_inj {srid other : Int32} :
    queryBySrid srid = queryBySrid other ↔ srid = other := by
  constructor
  · intro same
    exact int32Text_injective (String.append_right_inj _ |>.mp same)
  · exact congrArg queryBySrid

theorem queryLabel_inj {srid other : Int32} :
    queryLabel srid = queryLabel other ↔ srid = other := by
  constructor
  · intro same
    exact int32Text_injective (String.append_right_inj _ |>.mp same)
  · exact congrArg queryLabel

theorem toList_queryByCode (authority : String) (code : Int32) :
    (queryByCode authority code).toList =
      "SELECT srid, proj4text FROM spatial_ref_sys WHERE auth_name=".toList ++
        '\x27' :: (Sql.escapeQuotes '\x27' false authority.toList ++
          '\x27' :: (" AND auth_srid=".toList ++ (int32Text code).toList)) := by
  unfold queryByCode
  rw [String.toList_append, String.toList_append, String.toList_append, Sql.toList_textLiteral]
  simp only [List.append_assoc, List.cons_append, List.nil_append]

/-- There is no quote behind the authority of a query by code. -/
theorem unquoted_codeClause (code : Int32) :
    '\x27' ∉ " AND auth_srid=".toList ++ (int32Text code).toList := by
  intro member
  rcases List.mem_append.mp member with inside | inside
  · revert inside
    rw [String.toList_ofList]
    decide
  · rcases int32Text_chars inside with digit | sign
    · cases digit
    · cases sign

/-- The authority and the code of a query are known where the authority has no quotes. -/
theorem queryByCode_inj {authority other : String} {code otherCode : Int32}
    (plain : '\x27' ∉ other.toList) :
    queryByCode authority code = queryByCode other otherCode ↔
      authority = other ∧ code = otherCode := by
  constructor
  · intro same
    have as_is : Sql.escapeQuotes '\x27' false other.toList = other.toList :=
      (Sql.escapeQuotes_eq_iff plain false _).mpr rfl
    have texts := congrArg String.toList same
    rw [toList_queryByCode, toList_queryByCode, as_is] at texts
    have quoted := (List.cons.inj (List.append_cancel_left texts)).2
    -- Both texts go on without a quote behind the closing one.
    obtain ⟨authority_eq, -, clause_eq⟩ :=
      (List.append_cons_inj_of_notMem plain (unquoted_codeClause otherCode)).mp quoted.symm
    have written := (Sql.escapeQuotes_eq_iff plain false _).mp authority_eq.symm
    have code_eq := String.toList_injective (List.append_cancel_left clause_eq)
    exact ⟨String.toList_injective written, int32Text_injective code_eq.symm⟩
  · rintro ⟨rfl, rfl⟩
    rfl

end SpatialReference

end SpatialFilter
