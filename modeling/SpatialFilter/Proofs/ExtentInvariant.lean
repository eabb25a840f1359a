import Mathlib.Data.List.Induction
import SpatialFilter.Proofs.NumberText
import SpatialFilter.Proofs.Revisions

/-!
# Regular extents

An extent is meant to be the unbounded one, or to have four storable coordinates.  The checks of
the setting operations see to that, while a reprojection and an aggregation store what they read
from a row.  A run from the unbounded extent keeps to regular extents exactly when the rows that it
stores have storable numbers (`run_isRegular_iff`).
-/

namespace SpatialFilter.Extent

open SpatialFilter.Number
open SpatialFilter.Database

variable {catalog : LayerCatalog} {server : Server} {earlier : List String} {extent : Extent}

/-- Exactly the unbounded extent, or four finite coordinates none of which is extreme. -/
def IsRegular (extent : Extent) : Prop :=
  extent = unbounded ∨ extent.coordinates.all isStorable = true

/-- Storable coordinates are never taken for missing bounds. -/
theorem isUnbounded_of_storable (storable : extent.coordinates.all isStorable = true) :
    extent.isUnbounded = false := by
  unfold isUnbounded
  rw [List.any_eq_false]
  intro value member
  have kept := List.all_eq_true.mp storable value member
  simp only [isStorable, Bool.and_eq_true, Bool.not_eq_true'] at kept
  simp [kept.2]

/-- Only the unbounded extent is taken for unbounded. -/
theorem IsRegular.eq_unbounded (regular : extent.IsRegular)
    (taken : extent.isUnbounded = true) : extent = unbounded := by
  rcases regular with same | storable
  · exact same
  · rw [isUnbounded_of_storable storable] at taken
    cases taken

theorem IsRegular.finite (regular : extent.IsRegular) :
    ∀ value ∈ extent.coordinates, value.isFinite = true := by
  rcases regular with rfl | storable
  · decide
  · intro value member
    have kept := List.all_eq_true.mp storable value member
    simp only [isStorable, Bool.and_eq_true] at kept
    exact kept.1

theorem IsRegular.literal (regular : extent.IsRegular) : ∃ sql, extent.literal = .ok sql :=
  boxLiteral_of_finite regular.finite _

/-! ## Rows that coordinates are taken from -/

/-- The query that a command takes coordinates from. -/
def Command.rowQuery? (catalog : LayerCatalog) (extent : Extent) : Command → Option String
  | .aggregate layers filters =>
    if layers.length = filters.length ∧ layers ≠ [] then
      (branches catalog (layers.zip filters)).toOption.map aggregateQuery
    else none
  | .reproject target => (extent.reprojectionQuery target).toOption
  | _ => none

/-- The first row of an answer, unless one of the four coordinates is NULL there. -/
def coordinateRow? (rows : List Row) : Option Row :=
  rows.head?.filter fun row => !(List.range 4).any row.isNull

/-- The row that a command takes coordinates from. -/
def Command.row? (catalog : LayerCatalog) (server : Server) (earlier : List String)
    (extent : Extent) (command : Command) : Option Row :=
  (command.rowQuery? catalog extent).bind fun text =>
    (server.reply earlier text).toOption.bind coordinateRow?

/-- Whatever numbers stand in the first four cells are storable. -/
def HasStorableNumbers (row : Row) : Prop :=
  ∀ index < 4, ∀ value, row.number index = .ok value → isStorable value = true

/-- Coordinates from a row are storable exactly when the numbers in the row are. -/
theorem HasCoordinates.storable_iff {row : Row} (held : HasCoordinates row extent) :
    HasStorableNumbers row ↔ extent.coordinates.all isStorable = true := by
  obtain ⟨xmin_eq, ymin_eq, xmax_eq, ymax_eq⟩ := hasCoordinates_iff.mp held
  constructor
  · intro storable
    have xmin := storable 0 (by decide) _ xmin_eq
    have ymin := storable 1 (by decide) _ ymin_eq
    have xmax := storable 2 (by decide) _ xmax_eq
    have ymax := storable 3 (by decide) _ ymax_eq
    simp [coordinates, xmin, ymin, xmax, ymax]
  · intro storable index below value read
    simp only [coordinates, List.all_cons, List.all_nil, Bool.and_true, Bool.and_eq_true]
      at storable
    obtain ⟨xmin, ymin, xmax, ymax⟩ := storable
    match index with
    | 0 => rw [xmin_eq] at read; cases read; exact xmin
    | 1 => rw [ymin_eq] at read; cases read; exact ymin
    | 2 => rw [xmax_eq] at read; cases read; exact xmax
    | 3 => rw [ymax_eq] at read; cases read; exact ymax

/-- The extent has the coordinates of the row, or is unbounded for want of one. -/
def IsReadFrom (row : Option Row) (next : Extent) : Prop :=
  match row with
  | some row => HasCoordinates row next
  | none => next = unbounded

/-- An answer gives the coordinates of its first row, or the unbounded extent for want of one. -/
theorem ofAnswer_result {srid : Int32} {rows : List Row} {next : Extent}
    (answered : (ofAnswer srid rows).result server earlier = .ok next) :
    IsReadFrom (coordinateRow? rows) next ∧ next.reference.IsResolved server := by
  unfold ofAnswer at answered
  unfold coordinateRow?
  split at answered
  · cases answered
    exact ⟨rfl, unset_isResolved server⟩
  next row rest =>
    split at answered
    next null =>
      cases answered
      simp only [List.head?_cons, Option.filter_some, null, Bool.not_true, Bool.false_eq_true,
        if_false]
      exact ⟨rfl, unset_isResolved server⟩
    next present =>
      obtain ⟨reference, resolved, answered⟩ := Lookup.result_bind_eq_ok.mp answered
      rw [Lookup.result_adapt, mapError_eq_ok] at resolved
      rw [Lookup.result_liftExcept, mapError_eq_ok] at answered
      rw [Bool.not_eq_true] at present
      simp only [List.head?_cons, Option.filter_some, present, Bool.not_false, if_true]
      obtain ⟨held, rfl⟩ := ofRow_eq_ok_iff.mp answered
      exact ⟨held, srid, earlier, resolved⟩

/-- An aggregation that succeeds gives the coordinates of its row, or the unbounded extent when it
has none.  Its reference is that of a layer's srid. -/
theorem aggregate_result {layers filters : List String} {next : Extent}
    (aggregated : (aggregate catalog layers filters).result server earlier = .ok next) :
    IsReadFrom ((Command.aggregate layers filters).row? catalog server earlier extent) next ∧
      next.reference.IsResolved server := by
  unfold aggregate at aggregated
  unfold Command.row? Command.rowQuery?
  split at aggregated
  next other =>
    cases aggregated
    have apart : layers.length ≠ filters.length := by simpa using other
    refine ⟨?_, unset_isResolved server⟩
    simp [apart, IsReadFrom]
  next equal =>
    have same : layers.length = filters.length := by simpa using equal
    split at aggregated
    · cases aggregated
      refine ⟨?_, unset_isResolved server⟩
      simp [IsReadFrom]
    next first rest =>
      obtain ⟨parts, parts_eq, aggregated⟩ := Lookup.result_bind_eq_ok.mp aggregated
      obtain ⟨srid, srid_eq, aggregated⟩ := Lookup.result_bind_eq_ok.mp aggregated
      obtain ⟨rows, rows_eq, aggregated⟩ := Lookup.result_bind_eq_ok.mp aggregated
      rw [Lookup.result_liftExcept, mapError_eq_ok] at parts_eq
      rw [Lookup.result_query, mapError_eq_ok] at rows_eq
      rw [Lookup.result_adapt, mapError_eq_ok] at aggregated
      simp only [Lookup.queries_liftExcept, List.append_nil] at rows_eq
      obtain ⟨read, resolved⟩ := ofAnswer_result aggregated
      refine ⟨?_, resolved⟩
      simpa [same, parts_eq, rows_eq, Except.toOption] using read

/-! ## One step -/

/-- A command that succeeds takes the coordinates from its row, or leaves a regular extent. -/
theorem Command.Leaves.row {command : Command} {next : Extent}
    (left : command.Leaves catalog server earlier extent next) :
    (∃ row, command.row? catalog server earlier extent = some row ∧ HasCoordinates row next) ∨
      (command.row? catalog server earlier extent = none ∧ next.IsRegular) := by
  cases command with
  | set xmin ymin xmax ymax srid => exact Or.inr ⟨rfl, Or.inr left.storable⟩
  | setText text srid =>
    obtain ⟨coordinates, -, stored⟩ := left
    exact Or.inr ⟨rfl, Or.inr stored.storable⟩
  | setGeographic geographic => exact Or.inr ⟨rfl, Or.inr left.storable⟩
  | aggregate layers filters =>
    have read : IsReadFrom
        ((Command.aggregate layers filters).row? catalog server earlier extent) next :=
      (aggregate_result left).1
    unfold IsReadFrom at read
    split at read
    next row found => exact Or.inl ⟨row, found, read⟩
    next missing => exact Or.inr ⟨missing, Or.inl read⟩
  | reproject target =>
    obtain ⟨text, row, text_eq, answered, held⟩ := left.from_row
    have data := Row.hasData_iff.mp held.coordinates.hasData
    refine Or.inl ⟨row, ?_, held.coordinates⟩
    simp only [Command.row?, Command.rowQuery?, text_eq, answered, Except.toOption,
      Option.bind_some, coordinateRow?, List.head?_cons, Option.filter_some, data, Bool.not_false,
      if_true]
  | reset => exact Or.inr ⟨rfl, Or.inl left⟩

/-- The command succeeds with the coordinates of the row. -/
def StoresRow (catalog : LayerCatalog) (server : Server) (earlier : List String)
    (extent : Extent) (command : Command) (row : Row) : Prop :=
  ((step catalog extent command).run server earlier).1.2 = .ok () ∧
    command.row? catalog server earlier extent = some row

/-- A command keeps a regular extent regular exactly when the row that it stores, if it stores
one, has storable numbers or spells the unbounded extent. -/
theorem step_isRegular_iff (regular : extent.IsRegular) (command : Command) :
    ((step catalog extent command).run server earlier).1.1.IsRegular ↔
      ∀ row, StoresRow catalog server earlier extent command row →
        HasStorableNumbers row ∨
          ((step catalog extent command).run server earlier).1.1 = unbounded := by
  unfold StoresRow
  have ensured : (command.action catalog).Ensures server earlier extent
      (command.Leaves catalog server earlier extent) := action_ensures catalog command
  rcases step_cases ensured with ⟨error, ended⟩ | ⟨next, ended, left⟩
  · simp [ended, regular]
  · rcases left.row with ⟨row, found, held⟩ | ⟨missing, stays⟩
    · simp [ended, found, held.storable_iff, IsRegular, or_comm]
    · simp [ended, missing, stays]

/-! ## Whole runs -/

/-- The extent that a run from the unbounded one leaves, and the queries that the run puts. -/
def reached (catalog : LayerCatalog) (server : Server) (commands : List Command) :
    Extent × List String :=
  (afterAll catalog unbounded commands).run server []

/-- A run may be cut in two anywhere: the second part goes on after the queries of the first. -/
theorem run_afterAll_append (before after : List Command) :
    ((afterAll catalog extent (before ++ after)).run server earlier).1 =
      ((afterAll catalog ((afterAll catalog extent before).run server earlier).1 after).run server
        (earlier ++ ((afterAll catalog extent before).run server earlier).2)).1 := by
  induction before generalizing extent earlier with
  | nil => simp [afterAll]
  | cons command rest ih =>
    simp only [List.cons_append, afterAll, Inquiry.run_bind]
    rw [ih]
    simp only [List.append_assoc]

/-- One more command goes on with the extent and the queries of the run. -/
theorem reached_append (commands : List Command) (command : Command) :
    (reached catalog server (commands ++ [command])).1 =
      ((step catalog (reached catalog server commands).1 command).run server
        (reached catalog server commands).2).1.1 := by
  unfold reached
  rw [run_afterAll_append]
  simp [afterAll, Inquiry.run_bind]

/-- Every extent that a run from the unbounded one passes is regular exactly when each row that a
command of the run stores has storable numbers, or leaves exactly the unbounded extent.  A regular
extent is taken for unbounded only when it is, and can always be written as a literal. -/
theorem run_isRegular_iff (catalog : LayerCatalog) (server : Server) (commands : List Command) :
    ((∀ before after, commands = before ++ after →
        (reached catalog server before).1.IsRegular) ↔
      ∀ before command after, commands = before ++ command :: after →
        ∀ row, StoresRow catalog server (reached catalog server before).2
          (reached catalog server before).1 command row →
            HasStorableNumbers row ∨
              (reached catalog server (before ++ [command])).1 = unbounded) ∧
      ∀ extent : Extent, extent.IsRegular →
        (extent.isUnbounded = true → extent = unbounded) ∧ ∃ sql, extent.literal = .ok sql := by
  refine ⟨⟨?_, ?_⟩, fun extent regular => ⟨regular.eq_unbounded, regular.literal⟩⟩
  · intro regular before command after split row stored
    have here := regular before (command :: after) split
    have there := regular (before ++ [command]) after (by simp [split])
    rw [reached_append] at there ⊢
    exact (step_isRegular_iff here command).mp there row stored
  · intro storable before
    -- The commands of a run are taken from its end, where the last of them has been made.
    induction before using List.reverseRecOn with
    | nil => exact fun _ _ => Or.inl rfl
    | append_singleton before command ih =>
      intro after split
      have later : commands = before ++ command :: after := by simp [split]
      have here := ih (command :: after) later
      have stored := storable before command after later
      rw [reached_append] at stored ⊢
      exact (step_isRegular_iff here command).mpr stored

/-- The extent of a unit square that a database reprojects to a row. -/
def reprojectedSquare (row : Row) : Extent :=
  let one := Decimal.toBinary64 ⟨1, 0⟩ false
  let server : Server := ⟨fun earlier _ =>
    if earlier.isEmpty then .ok [⟨[some "EPSG", some "4326", none]⟩] else .ok [row]⟩
  (reached ⟨[], rfl⟩ server
    [.set (.zero false) (.zero false) one one 4326, .reproject 3857]).1

/-- A row with NaN makes an extent that cannot be written, and a row with the largest finite number
one that is taken for unbounded. -/
theorem reprojection_stores_any_number :
    let nan := reprojectedSquare
      ⟨[some "NaN", some "0", some "1", some "1", some "EPSG", some "3857", none]⟩
    let large := reprojectedSquare
      ⟨[some "0", some "0", some "1", some "1.7976931348623157e308", some "EPSG", some "3857",
        none]⟩
    (¬ nan.IsRegular ∧ nan.literal = .error (.nonFinite .nan)) ∧
      large.isUnbounded = true ∧ large ≠ unbounded := by
  intro nan large
  have xmin : nan.xmin = .nan := by decide +kernel
  have taken : large.isUnbounded = true := by decide +kernel
  have other : large ≠ unbounded := by decide +kernel
  refine ⟨⟨?_, ?_⟩, taken, other⟩
  · intro regular
    have finite := regular.finite nan.xmin (by simp [coordinates])
    rw [xmin] at finite
    cases finite
  · simp only [Extent.literal, Sql.boxLiteral, Sql.cornersText, xmin]
    rfl

end SpatialFilter.Extent
