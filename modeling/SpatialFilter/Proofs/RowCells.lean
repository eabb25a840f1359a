import SpatialFilter.Extent.Command
import SpatialFilter.Proofs.Results

/-!
# What the cells of a row hold

A cell is read as a text, an integer or a number exactly when it holds one, and a row is read as a
reference or an extent exactly when its cells hold what that is made of.  `HasCoordinates` says so
of the coordinates of an extent in terms of the cells, and `hasCoordinates_iff` in terms of how they
are read.
-/

namespace SpatialFilter

open SpatialFilter.Number
open SpatialFilter.Database

/-! ## Cells -/

namespace Database.Row

variable {row : Row} {index : Nat}

theorem optionalText_eq_ok_iff {cell : Option String} :
    row.optionalText index = .ok cell ↔ row.cells[index]? = some cell := by
  unfold optionalText
  cases row.cells[index]? <;> simp

/-- A cell has a text exactly when it is there and is not NULL. -/
theorem text_eq_ok_iff {content : String} :
    row.text index = .ok content ↔ row.cells[index]? = some (some content) := by
  unfold text
  rw [bind_eq_ok]
  simp only [optionalText_eq_ok_iff]
  constructor
  · rintro ⟨cell, holds, taken⟩
    cases cell with
    | none => cases taken
    | some found =>
      cases taken
      exact holds
  · intro holds
    exact ⟨some content, holds, rfl⟩

/-- The cell holds a text that is read as the integer, blanks around it aside. -/
def HoldsInt (row : Row) (index : Nat) (value : Int32) : Prop :=
  ∃ content, row.cells[index]? = some (some content) ∧
    readInt32? (Text.trim content.toList) = some value

theorem int_eq_ok_iff {value : Int32} : row.int index = .ok value ↔ row.HoldsInt index value := by
  unfold int HoldsInt
  rw [bind_eq_ok]
  simp only [text_eq_ok_iff]
  refine exists_congr fun content => and_congr_right fun _ => ?_
  cases readInt32? (Text.trim content.toList) <;> simp

/-- The cell holds a text that is read as the number, blanks around it aside. -/
def HoldsNumber (row : Row) (index : Nat) (value : Binary64) : Prop :=
  ∃ content, row.cells[index]? = some (some content) ∧
    Binary64.read? (Text.trim content.toList) = some value

theorem number_eq_ok_iff {value : Binary64} :
    row.number index = .ok value ↔ row.HoldsNumber index value := by
  unfold number HoldsNumber
  rw [bind_eq_ok]
  simp only [text_eq_ok_iff]
  refine exists_congr fun content => and_congr_right fun _ => ?_
  cases Binary64.read? (Text.trim content.toList) <;> simp

/-- No cell among the first four is NULL. -/
def HasData (row : Row) : Prop :=
  ∀ index < 4, row.cells[index]? ≠ some none

theorem hasData_iff : row.HasData ↔ (List.range 4).any row.isNull = false := by
  simp [HasData, isNull, List.any_eq_false]

/-! ## References -/

/-- From a column on, the row holds what the reference of a srid is made of: an authority, a code
and a definition.  Only the definition may be NULL. -/
structure DescribesSrid (srid : Int32) (first : Nat) (row : Row) (reference : SpatialReference) :
    Prop where
  srid_eq : reference.srid = srid
  authority_cell : row.cells[first]? = some (some reference.authority)
  code_cell : row.HoldsInt (first + 1) reference.code
  definition_cell : ∃ definition, row.cells[first + 2]? = some definition ∧
    reference.isAngular = !isMetricDefinition definition

/-- The row holds what the reference of an authority and a code is made of: a srid and a definition,
which may be NULL. -/
structure DescribesCode (authority : String) (code : Int32) (row : Row)
    (reference : SpatialReference) : Prop where
  authority_eq : reference.authority = authority
  code_eq : reference.code = code
  srid_cell : row.HoldsInt 0 reference.srid
  definition_cell : ∃ definition, row.cells[1]? = some definition ∧
    reference.isAngular = !isMetricDefinition definition

/-- Cells are read as the reference of a srid exactly when they describe it. -/
theorem ofCells_eq_ok_iff {srid : Int32} {first : Nat} {reference : SpatialReference} :
    SpatialReference.ofCells srid row first = .ok reference ↔
      row.DescribesSrid srid first reference := by
  unfold SpatialReference.ofCells
  simp only [bind_eq_ok, text_eq_ok_iff, int_eq_ok_iff, optionalText_eq_ok_iff]
  constructor
  · rintro ⟨authority, authority_cell, code, code_cell, definition, definition_cell, made⟩
    cases made
    exact ⟨rfl, authority_cell, code_cell, definition, definition_cell, rfl⟩
  · rintro ⟨rfl, authority_cell, code_cell, definition, definition_cell, angular⟩
    refine ⟨_, authority_cell, _, code_cell, definition, definition_cell, ?_⟩
    rw [← angular]
    rfl

theorem ofCodeRow_eq_ok_iff {authority : String} {code : Int32} {reference : SpatialReference} :
    SpatialReference.ofCodeRow authority code row = .ok reference ↔
      row.DescribesCode authority code reference := by
  unfold SpatialReference.ofCodeRow
  simp only [bind_eq_ok, int_eq_ok_iff, optionalText_eq_ok_iff]
  constructor
  · rintro ⟨srid, srid_cell, definition, definition_cell, made⟩
    cases made
    exact ⟨rfl, rfl, srid_cell, definition, definition_cell, rfl⟩
  · rintro ⟨rfl, rfl, srid_cell, definition, definition_cell, angular⟩
    refine ⟨_, srid_cell, definition, definition_cell, ?_⟩
    rw [← angular]
    rfl

end Database.Row

/-! ## Extents -/

namespace Extent

variable {row : Row} {next : Extent}

/-- The first four cells hold the coordinates of the extent. -/
structure HasCoordinates (row : Row) (next : Extent) : Prop where
  xmin : row.HoldsNumber 0 next.xmin
  ymin : row.HoldsNumber 1 next.ymin
  xmax : row.HoldsNumber 2 next.xmax
  ymax : row.HoldsNumber 3 next.ymax

/-- The cells hold the coordinates exactly when they are read as them. -/
theorem hasCoordinates_iff :
    HasCoordinates row next ↔
      row.number 0 = .ok next.xmin ∧ row.number 1 = .ok next.ymin ∧
        row.number 2 = .ok next.xmax ∧ row.number 3 = .ok next.ymax := by
  simp only [Row.number_eq_ok_iff]
  constructor
  · rintro ⟨xmin, ymin, xmax, ymax⟩
    exact ⟨xmin, ymin, xmax, ymax⟩
  · rintro ⟨xmin, ymin, xmax, ymax⟩
    exact ⟨xmin, ymin, xmax, ymax⟩

theorem HasCoordinates.hasData (coordinates : HasCoordinates row next) : row.HasData := by
  obtain ⟨⟨_, xmin, -⟩, ⟨_, ymin, -⟩, ⟨_, xmax, -⟩, ⟨_, ymax, -⟩⟩ := coordinates
  intro index below
  match index with
  | 0 => simp [xmin]
  | 1 => simp [ymin]
  | 2 => simp [xmax]
  | 3 => simp [ymax]

/-- Four numbers in the first cells are the coordinates of an extent in any reference. -/
theorem exists_hasCoordinates_iff (reference : SpatialReference) :
    (∃ next : Extent, next.reference = reference ∧ HasCoordinates row next) ↔
      ∀ index < 4, ∃ value, row.HoldsNumber index value := by
  constructor
  · intro coordinates index below
    obtain ⟨next, -, xmin, ymin, xmax, ymax⟩ := coordinates
    match index with
    | 0 => exact ⟨_, xmin⟩
    | 1 => exact ⟨_, ymin⟩
    | 2 => exact ⟨_, xmax⟩
    | 3 => exact ⟨_, ymax⟩
  · intro numbers
    obtain ⟨xmin, xmin_held⟩ := numbers 0 (by decide)
    obtain ⟨ymin, ymin_held⟩ := numbers 1 (by decide)
    obtain ⟨xmax, xmax_held⟩ := numbers 2 (by decide)
    obtain ⟨ymax, ymax_held⟩ := numbers 3 (by decide)
    exact ⟨⟨xmin, ymin, xmax, ymax, reference⟩, rfl, xmin_held, ymin_held, xmax_held, ymax_held⟩

theorem ofRow_eq_ok_iff {reference : SpatialReference} :
    ofRow row reference = .ok next ↔ HasCoordinates row next ∧ next.reference = reference := by
  unfold ofRow
  simp only [bind_eq_ok, Row.number_eq_ok_iff]
  constructor
  · rintro ⟨xmin, xmin_held, ymin, ymin_held, xmax, xmax_held, ymax, ymax_held, made⟩
    cases made
    exact ⟨⟨xmin_held, ymin_held, xmax_held, ymax_held⟩, rfl⟩
  · rintro ⟨⟨xmin, ymin, xmax, ymax⟩, rfl⟩
    exact ⟨_, xmin, _, ymin, _, xmax, _, ymax, rfl⟩

/-- The row holds an extent in the target's reference: its coordinates in the first four cells, and
what the reference is made of in the three behind them. -/
structure IsHeldBy (target : Int32) (row : Row) (next : Extent) : Prop where
  coordinates : HasCoordinates row next
  reference : row.DescribesSrid target 4 next.reference

/-- A row is read as an extent exactly when it holds the extent. -/
theorem ofReprojectionRow_eq_ok_iff {target : Int32} :
    ofReprojectionRow target row = .ok next ↔ IsHeldBy target row next := by
  unfold ofReprojectionRow
  simp only [bind_eq_ok, Row.number_eq_ok_iff, Row.ofCells_eq_ok_iff]
  constructor
  · rintro ⟨xmin, xmin_held, ymin, ymin_held, xmax, xmax_held, ymax, ymax_held, reference,
      described, made⟩
    cases made
    exact ⟨⟨xmin_held, ymin_held, xmax_held, ymax_held⟩, described⟩
  · rintro ⟨⟨xmin, ymin, xmax, ymax⟩, described⟩
    exact ⟨_, xmin, _, ymin, _, xmax, _, ymax, _, described, rfl⟩

end Extent

end SpatialFilter
