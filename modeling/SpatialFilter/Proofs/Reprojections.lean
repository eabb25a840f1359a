import SpatialFilter.Proofs.AggregatedExtents
import SpatialFilter.Proofs.RenderedBoxes
import SpatialFilter.Proofs.AcceptedExtents

/-!
# Reprojections in one query

A reprojection puts at most one query.  It is refused without one where a reference is missing or
the extent is unbounded, and where a coordinate cannot be written.  Otherwise the reply decides how
it ends (`ReplyEnding`), and the only row of an answer has to hold an extent (`HoldsExtent`).  The
cells behind the coordinates are read as those of a catalog entry are, so that a row joined with the
entry of the target gives the reference that a lookup of the target gives
(`reprojection_takes_one_query`).
-/

namespace SpatialFilter

open SpatialFilter.Number
open SpatialFilter.Database
open SpatialFilter.Text

variable {server : Server} {earlier : List String}

/-! ## Rows -/

namespace Database.Row

variable {row : Row} {index : Nat}

/-- Whatever goes wrong is the shape of a row. -/
def FailsInShape {α : Type} (cells : Except QueryError α) : Prop :=
  ∀ error, cells = .error error → ∃ fault, error = .shape fault

theorem FailsInShape.bind {α β : Type} {cells : Except QueryError α}
    {next : α → Except QueryError β} (first : FailsInShape cells)
    (second : ∀ value, FailsInShape (next value)) : FailsInShape (cells >>= next) := by
  intro error failed
  cases cells with
  | ok value => exact second value error failed
  | error fault =>
    cases failed
    exact first error rfl

theorem failsInShape_ok {α : Type} (value : α) : FailsInShape (.ok value) := nofun

theorem failsInShape_shape {α : Type} (fault : ShapeFault) :
    FailsInShape (.error (.shape fault) : Except QueryError α) := by
  intro error failed
  cases failed
  exact ⟨fault, rfl⟩

theorem optionalText_failsInShape : FailsInShape (row.optionalText index) := by
  unfold optionalText
  split
  · exact failsInShape_ok _
  · exact failsInShape_shape _

theorem text_failsInShape : FailsInShape (row.text index) := by
  apply optionalText_failsInShape.bind
  intro cell
  cases cell with
  | none => exact failsInShape_shape _
  | some content => exact failsInShape_ok _

theorem int_failsInShape : FailsInShape (row.int index) := by
  apply text_failsInShape.bind
  intro content
  split
  · exact failsInShape_ok _
  · exact failsInShape_shape _

theorem number_failsInShape : FailsInShape (row.number index) := by
  apply text_failsInShape.bind
  intro content
  split
  · exact failsInShape_ok _
  · exact failsInShape_shape _

theorem ofCells_failsInShape (srid : Int32) :
    FailsInShape (SpatialReference.ofCells srid row index) := by
  apply text_failsInShape.bind
  intro authority
  apply int_failsInShape.bind
  intro code
  apply optionalText_failsInShape.bind
  intro definition
  exact failsInShape_ok _

/-- The cells that describe a reference may stand at the start of a row or further on. -/
theorem describesSrid_of_cells {entry : Row} {first : Nat} {srid : Int32}
    {reference : SpatialReference}
    (same : ∀ offset < 3, entry.cells[offset]? = row.cells[first + offset]?) :
    entry.DescribesSrid srid 0 reference ↔ row.DescribesSrid srid first reference := by
  have authority := same 0 (by decide)
  have code := same 1 (by decide)
  have definition := same 2 (by decide)
  rw [Nat.add_zero] at authority
  constructor
  · rintro ⟨srid_eq, authority_cell, ⟨content, code_cell, read⟩, definition_cell⟩
    rw [authority] at authority_cell
    rw [code] at code_cell
    rw [definition] at definition_cell
    exact ⟨srid_eq, authority_cell, ⟨content, code_cell, read⟩, definition_cell⟩
  · rintro ⟨srid_eq, authority_cell, ⟨content, code_cell, read⟩, definition_cell⟩
    rw [← authority] at authority_cell
    rw [← code] at code_cell
    rw [← definition] at definition_cell
    exact ⟨srid_eq, authority_cell, ⟨content, code_cell, read⟩, definition_cell⟩

end Database.Row

namespace Extent

variable {extent : Extent} {target : Int32}

/-- The row holds an extent, whatever the target: four numbers, an authority that is not NULL, an
integer, and one more cell. -/
structure HoldsExtent (row : Row) : Prop where
  coordinates : ∀ index < 4, ∃ value, row.HoldsNumber index value
  authority_cell : ∃ authority, row.cells[4]? = some (some authority)
  code_cell : ∃ code, row.HoldsInt 5 code
  definition_cell : ∃ definition, row.cells[6]? = some definition

/-- Whether a row holds an extent does not depend on the target. -/
theorem holdsExtent_iff (target : Int32) {row : Row} :
    HoldsExtent row ↔ ∃ next, IsHeldBy target row next := by
  constructor
  · intro holds
    obtain ⟨authority, authority_cell⟩ := holds.authority_cell
    obtain ⟨code, code_cell⟩ := holds.code_cell
    obtain ⟨definition, definition_cell⟩ := holds.definition_cell
    let reference : SpatialReference := ⟨target, authority, code, !isMetricDefinition definition⟩
    have described : row.DescribesSrid target 4 reference :=
      ⟨rfl, authority_cell, code_cell, definition, definition_cell, rfl⟩
    obtain ⟨next, reference_eq, coordinates⟩ :=
      (exists_hasCoordinates_iff reference).mpr holds.coordinates
    rw [← reference_eq] at described
    exact ⟨next, coordinates, described⟩
  · intro held
    obtain ⟨next, coordinates, reference⟩ := held
    obtain ⟨definition, definition_cell, -⟩ := reference.definition_cell
    exact ⟨(exists_hasCoordinates_iff next.reference).mp ⟨next, rfl, coordinates⟩,
      ⟨_, reference.authority_cell⟩, ⟨_, reference.code_cell⟩, ⟨definition, definition_cell⟩⟩

/-- A row that is no extent fails by its shape. -/
theorem ofReprojectionRow_failsInShape (row : Row) :
    Row.FailsInShape (ofReprojectionRow target row) := by
  apply Row.number_failsInShape.bind
  intro xmin
  apply Row.number_failsInShape.bind
  intro ymin
  apply Row.number_failsInShape.bind
  intro xmax
  apply Row.number_failsInShape.bind
  intro ymax
  apply (Row.ofCells_failsInShape target).bind
  intro reference
  exact Row.failsInShape_ok _

/-! ## The query -/

/-- The query for an extent in the target's reference. -/
def reprojectionText (extent : Extent) (target : Int32) : String :=
  "SELECT ST_XMin(g.geom), ST_YMin(g.geom), ST_XMax(g.geom), ST_YMax(g.geom), " ++
    "s.auth_name, s.auth_srid, s.proj4text FROM (SELECT ST_Transform(ST_SetSRID('" ++
    extent.envelope.text ++ "'::box2d::geometry, " ++ int32Text extent.reference.srid ++ "), " ++
    int32Text target ++ ") AS geom) AS g, " ++ "spatial_ref_sys AS s WHERE s.srid = " ++
    int32Text target

/-- The first coordinate that is no finite number. -/
def firstNonFinite? (extent : Extent) : Option Binary64 :=
  extent.coordinates.find? fun value => !value.isFinite

theorem firstNonFinite_eq_none_iff :
    extent.firstNonFinite? = none ↔ ∀ value ∈ extent.coordinates, value.isFinite = true := by
  simp [firstNonFinite?]

theorem cornersText_of_finite (finite : ∀ value ∈ extent.coordinates, value.isFinite = true) :
    Sql.cornersText extent.xmin extent.ymin extent.xmax extent.ymax = .ok extent.envelope.text := by
  simp only [coordinates, List.forall_mem_cons] at finite
  obtain ⟨xmin, ymin, xmax, ymax, -⟩ := finite
  unfold Sql.cornersText
  rw [number_of_finite xmin, number_of_finite ymin, number_of_finite xmax, number_of_finite ymax]
  rfl

theorem reprojectionQuery_of_finite (finite : ∀ value ∈ extent.coordinates, value.isFinite = true) :
    extent.reprojectionQuery target = .ok (extent.reprojectionText target) := by
  unfold reprojectionQuery
  rw [cornersText_of_finite finite]
  rfl

theorem cornersText_of_nonFinite {value : Binary64}
    (first : extent.firstNonFinite? = some value) :
    Sql.cornersText extent.xmin extent.ymin extent.xmax extent.ymax =
      .error (.nonFinite value) := by
  unfold firstNonFinite? coordinates at first
  unfold Sql.cornersText
  -- The coordinates are written in order up to the one that cannot be.
  cases xmin : extent.xmin.isFinite with
  | false =>
    obtain rfl : extent.xmin = value := by simpa [xmin] using first
    rw [number_of_nonFinite xmin]
    rfl
  | true =>
    rw [number_of_finite xmin]
    cases ymin : extent.ymin.isFinite with
    | false =>
      obtain rfl : extent.ymin = value := by simpa [xmin, ymin] using first
      rw [number_of_nonFinite ymin]
      rfl
    | true =>
      rw [number_of_finite ymin]
      cases xmax : extent.xmax.isFinite with
      | false =>
        obtain rfl : extent.xmax = value := by simpa [xmin, ymin, xmax] using first
        rw [number_of_nonFinite xmax]
        rfl
      | true =>
        rw [number_of_finite xmax]
        obtain ⟨ymax, rfl⟩ : extent.ymax.isFinite = false ∧ extent.ymax = value := by
          simpa [xmin, ymin, xmax] using first
        rw [number_of_nonFinite ymax]
        rfl

theorem reprojectionQuery_of_nonFinite {value : Binary64}
    (first : extent.firstNonFinite? = some value) :
    extent.reprojectionQuery target = .error (.nonFinite value) := by
  unfold reprojectionQuery
  rw [cornersText_of_nonFinite first]
  rfl

/-! ## How reprojections end -/

/-- The extent is bounded, and there are references to go from and to. -/
structure IsReferenced (extent : Extent) (target : Int32) : Prop where
  bounded : extent.isUnbounded = false
  source : extent.reference.isUnset = false
  target : target ≠ unsetSrid

/-- The ways in which a call with a query can end, each with the reply that it belongs to. -/
inductive ReplyEnding (extent : Extent) (target : Int32) (query : String) :
    Reply → Revision.Ending ExtentError → Prop
  | refused (error : QueryError) :
    ReplyEnding extent target query (.error error) ⟨.error (.engine error), extent, [query]⟩
  | counted {rows : List Row} (other : rows.length ≠ 1) :
    ReplyEnding extent target query (.ok rows)
      ⟨.error (.reference (.missingSrid target)), extent, [query]⟩
  | unread {row : Row} (fault : ShapeFault) (without : ∀ next, ¬ IsHeldBy target row next) :
    ReplyEnding extent target query (.ok [row]) ⟨.error (.engine (.shape fault)), extent, [query]⟩
  | stored {row : Row} {next : Extent} (held : IsHeldBy target row next) :
    ReplyEnding extent target query (.ok [row]) ⟨.ok (), next, [query]⟩

/-- Without bounds or a reference nothing is asked. -/
theorem reproject_of_unreferenced (unreferenced : ¬ IsReferenced extent target) :
    (reproject target).FailsAtOnce server earlier extent (.unreferenced extent.text) := by
  unfold Revision.FailsAtOnce reproject
  rw [Revision.ending_get_bind, if_pos]
  · rfl
  · by_contra accepted
    simp only [Bool.or_eq_true, beq_iff_eq, not_or, Bool.not_eq_true] at accepted
    exact unreferenced ⟨accepted.1.1, accepted.1.2, accepted.2⟩

theorem IsReferenced.accepted (referenced : IsReferenced extent target) :
    ¬ (extent.isUnbounded || extent.reference.isUnset || target == unsetSrid) = true := by
  simp [referenced.bounded, referenced.source, referenced.target]

/-- A coordinate that cannot be written stops the call before its query. -/
theorem reproject_of_nonFinite (referenced : IsReferenced extent target) {value : Binary64}
    (first : extent.firstNonFinite? = some value) :
    (reproject target).FailsAtOnce server earlier extent (.engine (.nonFinite value)) := by
  unfold Revision.FailsAtOnce reproject
  rw [Revision.ending_get_bind, if_neg referenced.accepted, reprojectionQuery_of_nonFinite first]
  rfl

/-- With bounds, references and finite coordinates, one query is put and its reply decides. -/
theorem reproject_of_finite (referenced : IsReferenced extent target)
    (finite : ∀ value ∈ extent.coordinates, value.isFinite = true) :
    ReplyEnding extent target (extent.reprojectionText target)
      (server.reply earlier (extent.reprojectionText target))
      ((reproject target).ending server earlier extent) := by
  unfold reproject
  rw [Revision.ending_get_bind, if_neg referenced.accepted, reprojectionQuery_of_finite finite,
    Revision.ending_ofExcept_ok, Revision.ending_ofLookup_bind, Lookup.result_query,
    Lookup.queries_query]
  cases server.reply earlier (extent.reprojectionText target) with
  | error error => exact .refused error
  | ok rows =>
    dsimp only [Except.mapError]
    split
    next row =>
      cases read : ofReprojectionRow target row with
      | ok next =>
        rw [Revision.ending_ofExcept_ok, Revision.ending_replace]
        exact .stored (ofReprojectionRow_eq_ok_iff.mp read)
      | error error =>
        obtain ⟨fault, rfl⟩ := ofReprojectionRow_failsInShape row error read
        rw [Revision.ending_ofExcept_error]
        apply ReplyEnding.unread
        intro next held
        rw [ofReprojectionRow_eq_ok_iff.mpr held] at read
        cases read
    next other =>
      apply ReplyEnding.counted
      intro single
      obtain ⟨row, rfl⟩ := List.length_eq_one_iff.mp single
      exact other row rfl

theorem ReplyEnding.result_ne_unreferenced {query : String} {reply : Reply}
    {call : Revision.Ending ExtentError} (ending : ReplyEnding extent target query reply call)
    (shown : String) : call.result ≠ .error (.unreferenced shown) := by
  cases ending <;> nofun

/-- With both references, no error is that of an unreferenced extent. -/
theorem reproject_ne_unreferenced (referenced : IsReferenced extent target) (shown : String) :
    ((reproject target).ending server earlier extent).result ≠ .error (.unreferenced shown) := by
  cases first : extent.firstNonFinite? with
  | some value =>
    rw [(reproject_of_nonFinite referenced first).result_eq]
    nofun
  | none =>
    have finite := firstNonFinite_eq_none_iff.mp first
    exact (reproject_of_finite referenced finite).result_ne_unreferenced shown

/-- The reply decides how a call with a query ends.  The extent is replaced by what the only row of
an answer holds.  Another number of rows means that there is no entry for the target, everything
else is a failure of the engine, and a call that fails leaves the extent. -/
structure IsDecidedByRow (call : Revision.Ending ExtentError) (extent : Extent) (target : Int32)
    (query : String) (reply : Reply) : Prop where
  queries_eq : call.queries = [query]
  succeeds_iff : call.result = .ok () ↔ ∃ row, reply = .ok [row] ∧ HoldsExtent row
  stored : ∀ row, reply = .ok [row] → HoldsExtent row → IsHeldBy target row call.left
  missing_iff : call.result = .error (.reference (.missingSrid target)) ↔
    ∃ rows, reply = .ok rows ∧ rows.length ≠ 1
  failed_iff : (∃ error, call.result = .error (.engine error)) ↔
    (∃ error, reply = .error error) ∨ ∃ row, reply = .ok [row] ∧ ¬ HoldsExtent row
  refused : ∀ error, reply = .error error → call.result = .error (.engine error)
  unread : ∀ row, reply = .ok [row] → ¬ HoldsExtent row →
    ∃ fault, call.result = .error (.engine (.shape fault))
  kept : ∀ error, call.result = .error error → call.left = extent

/-- Each of these endings is decided by the rows of the reply. -/
theorem ReplyEnding.isDecidedByRow {query : String} {reply : Reply}
    {call : Revision.Ending ExtentError} (ending : ReplyEnding extent target query reply call) :
    IsDecidedByRow call extent target query reply := by
  cases ending with
  | refused error =>
    constructor <;> simp
  | counted other =>
    rename_i rows
    have not_single : ∀ row, rows ≠ [row] := by
      intro row single
      rw [single] at other
      exact other rfl
    constructor <;> simp [other, not_single]
  | unread fault without =>
    rename_i row
    have lacks : ¬ HoldsExtent row := by
      intro holds
      obtain ⟨next, held⟩ := (holdsExtent_iff target).mp holds
      exact without next held
    constructor <;> simp [lacks]
  | stored held =>
    have holds := (holdsExtent_iff target).mpr ⟨_, held⟩
    constructor <;> simp [holds, held]

/-! ## The text of the query -/

theorem text_isNumeral {value : Binary64} (finite : value.isFinite = true) :
    ∀ c ∈ value.text.toList, isNumeralChar c = true := by
  intro c member
  rcases Binary64.text_chars finite member with digit | rfl | rfl
  · exact isNumeralChar_of_isDigit digit
  · rfl
  · rfl

theorem int32Text_isNumeral (value : Int32) :
    ∀ c ∈ (int32Text value).toList, isNumeralChar c = true := by
  intro c member
  rcases int32Text_chars member with digit | rfl
  · exact isNumeralChar_of_isDigit digit
  · rfl

/-- The numerals in the query, up to the target. -/
def numerals (extent : Extent) (target : Int32) : List (List Char) :=
  extent.coordinates.map (·.text.toList) ++
    [(int32Text extent.reference.srid).toList, (int32Text target).toList]

theorem length_numerals : (extent.numerals target).length = 6 := by
  simp [numerals, coordinates]

def reprojectionHead : String :=
  "SELECT ST_XMin(g.geom), ST_YMin(g.geom), ST_XMax(g.geom), ST_YMax(g.geom), " ++
    "s.auth_name, s.auth_srid, s.proj4text FROM (SELECT ST_Transform(ST_SetSRID('" ++ "BOX("

/-- What stands behind each of these numerals. -/
def reprojectionMarks : List (List Char) :=
  [" ", ",", " ", ")" ++ "'::box2d::geometry, ", "), ",
    ") AS geom) AS g, " ++ "spatial_ref_sys AS s WHERE s.srid = "].map String.toList

theorem length_reprojectionMarks : reprojectionMarks.length = 6 := by
  rw [reprojectionMarks, List.length_map]
  rfl

theorem reprojectionMarks_stop :
    ∀ mark ∈ reprojectionMarks, mark ≠ [] ∧ StopsAt isNumeralChar mark := by
  simp only [reprojectionMarks, List.map_cons, List.map_nil, List.forall_mem_cons]
  refine ⟨⟨?_, ?_⟩, ⟨?_, ?_⟩, ⟨?_, ?_⟩, ⟨?_, ?_⟩, ⟨?_, ?_⟩, ⟨?_, ?_⟩, nofun⟩
  all_goals first | exact stopsAt_cons _ rfl | decide

theorem numerals_inside (finite : ∀ value ∈ extent.coordinates, value.isFinite = true) :
    ∀ run ∈ extent.numerals target, ∀ c ∈ run, isNumeralChar c = true := by
  intro run member
  rcases List.mem_append.mp member with coordinate | srid
  · obtain ⟨value, inside, rfl⟩ := List.mem_map.mp coordinate
    exact text_isNumeral (finite value inside)
  · simp only [List.mem_cons, List.not_mem_nil, or_false] at srid
    rcases srid with rfl | rfl
    · exact int32Text_isNumeral _
    · exact int32Text_isNumeral _

theorem toList_reprojectionText :
    (extent.reprojectionText target).toList =
      reprojectionHead.toList ++
        (marked (extent.numerals target) reprojectionMarks ++ (int32Text target).toList) := by
  unfold reprojectionText Envelope.text reprojectionHead reprojectionMarks numerals coordinates
  -- The literals are made opaque, since evaluating them takes long.
  generalize "SELECT ST_XMin(g.geom), ST_YMin(g.geom), ST_XMax(g.geom), ST_YMax(g.geom), " = select
  generalize "s.auth_name, s.auth_srid, s.proj4text FROM (SELECT ST_Transform(ST_SetSRID('" = source
  generalize "'::box2d::geometry, " = converted
  generalize "spatial_ref_sys AS s WHERE s.srid = " = catalog
  simp [marked, envelope]

/-- The query tells the coordinates, the srid and the target. -/
theorem reprojectionText_inj {other : Extent} {otherTarget : Int32}
    (finite : ∀ value ∈ extent.coordinates, value.isFinite = true)
    (other_finite : ∀ value ∈ other.coordinates, value.isFinite = true) :
    extent.reprojectionText target = other.reprojectionText otherTarget ↔
      extent.coordinates = other.coordinates ∧
        extent.reference.srid = other.reference.srid ∧ target = otherTarget := by
  have srid_inj : ∀ value other : Int32, int32Text value = int32Text other ↔ value = other :=
    fun value other => ⟨int32Text_injective, congrArg int32Text⟩
  have same_count : ∀ (extent : Extent) (target : Int32),
      (extent.numerals target).length = reprojectionMarks.length := fun _ _ =>
    length_numerals.trans length_reprojectionMarks.symm
  rw [← String.toList_inj, toList_reprojectionText, toList_reprojectionText,
    List.append_right_inj, marked_append_inj reprojectionMarks_stop (numerals_inside finite)
      (numerals_inside other_finite) (same_count _ _) (same_count _ _)]
  simp only [coordinates, List.forall_mem_cons] at finite other_finite
  obtain ⟨xmin, ymin, xmax, ymax, -⟩ := finite
  obtain ⟨xmin', ymin', xmax', ymax', -⟩ := other_finite
  simp only [numerals, coordinates, List.map_cons, List.map_nil, List.cons_append,
    List.nil_append, List.cons.injEq, String.toList_inj, Binary64.text_inj xmin xmin',
    Binary64.text_inj ymin ymin', Binary64.text_inj xmax xmax', Binary64.text_inj ymax ymax',
    srid_inj, and_true]
  constructor
  · intro same
    obtain ⟨⟨xmin_eq, ymin_eq, xmax_eq, ymax_eq, srid_eq, target_eq⟩, -⟩ := same
    exact ⟨⟨xmin_eq, ymin_eq, xmax_eq, ymax_eq⟩, srid_eq, target_eq⟩
  · intro same
    obtain ⟨⟨xmin_eq, ymin_eq, xmax_eq, ymax_eq⟩, srid_eq, target_eq⟩ := same
    exact ⟨⟨xmin_eq, ymin_eq, xmax_eq, ymax_eq, srid_eq, target_eq⟩, target_eq⟩

/-! ## Reprojections and lookups -/

/-- A row whose last three cells are those of the entry of the target gives the reference that the
lookup of the target gives. -/
theorem IsHeldBy.resolveSrid_eq {row entry : Row} {next : Extent} {later : List String}
    (held : IsHeldBy target row next) (given : target ≠ unsetSrid)
    (answered : server.reply later (SpatialReference.queryBySrid target) = .ok [entry])
    (same : ∀ offset < 3, entry.cells[offset]? = row.cells[4 + offset]?) :
    (SpatialReference.resolveSrid target).result server later = .ok next.reference := by
  have described := (Row.describesSrid_of_cells same).mpr held.reference
  have decided := @SpatialReference.resolveSrid_isDecidedBy server later target given
  exact (decided.found_iff _).mpr ⟨entry, answered, described⟩

/-- A reprojection is unreferenced exactly where the extent is unbounded, has no reference or is to
have none, and where a coordinate is no finite number the engine fails with the first such; neither
takes a query.  In every other case there is one query, which tells the coordinates, the srid and
the target, and the reply to it decides.  Where the only row ends in the cells of the entry that
the database has for the target, the extent gets the reference that a lookup of the target
gives. -/
theorem reprojection_takes_one_query (server : Server) (earlier : List String) (extent : Extent)
    (target : Int32) :
    let call := (reproject target).ending server earlier extent
    ((∃ shown, call.result = .error (.unreferenced shown)) ↔ ¬ IsReferenced extent target) ∧
      (¬ IsReferenced extent target →
        (reproject target).FailsAtOnce server earlier extent (.unreferenced extent.text)) ∧
      (IsReferenced extent target →
        (∀ value, extent.firstNonFinite? = some value →
          (reproject target).FailsAtOnce server earlier extent (.engine (.nonFinite value))) ∧
        ((∀ value ∈ extent.coordinates, value.isFinite = true) →
          let query := extent.reprojectionText target
          IsDecidedByRow call extent target query (server.reply earlier query) ∧
          (∀ (other : Extent) (otherTarget : Int32),
            (∀ value ∈ other.coordinates, value.isFinite = true) →
            (query = other.reprojectionText otherTarget ↔
              extent.coordinates = other.coordinates ∧
                extent.reference.srid = other.reference.srid ∧ target = otherTarget)) ∧
          ∀ row entry later, server.reply earlier query = .ok [row] → HoldsExtent row →
            server.reply later (SpatialReference.queryBySrid target) = .ok [entry] →
            (∀ offset < 3, entry.cells[offset]? = row.cells[4 + offset]?) →
            (SpatialReference.resolveSrid target).result server later =
              .ok call.left.reference)) := by
  intro call
  refine ⟨⟨?_, ?_⟩, reproject_of_unreferenced, ?_⟩
  · intro refused referenced
    obtain ⟨shown, failed⟩ := refused
    exact reproject_ne_unreferenced referenced shown failed
  · intro unreferenced
    exact ⟨extent.text, (reproject_of_unreferenced unreferenced).result_eq⟩
  · intro referenced
    refine ⟨fun value first => reproject_of_nonFinite referenced first, ?_⟩
    intro finite query
    have decided : IsDecidedByRow call extent target query (server.reply earlier query) :=
      (reproject_of_finite referenced finite).isDecidedByRow
    refine ⟨decided, fun other otherTarget other_finite => reprojectionText_inj finite other_finite,
      ?_⟩
    intro row entry later replied holds answered same
    exact (decided.stored row replied holds).resolveSrid_eq referenced.target answered same

/-- A unit square in degrees. -/
def degreeSquare : Extent where
  xmin := .zero false
  ymin := .zero true
  xmax := .ofUnits false unitsPerOne 1
  ymax := .ofUnits false unitsPerOne 1
  reference := ⟨geographicSrid, "EPSG", geographicSrid, true⟩

/-- The square on the web map, joined with the entry of the web map. -/
def squareRow : Row :=
  ⟨[some "0", some "0", some " 111319.5", some "1.113251E5", some "EPSG", some "3857", none]⟩

/-- A database that replies with the joined row, and from then on with the entry. -/
def squareServer : Server :=
  ⟨fun earlier _ =>
    if earlier.isEmpty then .ok [squareRow] else .ok [⟨squareRow.cells.drop 4⟩]⟩

/-- The square gets the reference that a lookup of its target finds right after it. -/
theorem square_gets_reference_of_lookup :
    let call := (reproject 3857).ending squareServer [] degreeSquare
    call.result = .ok () ∧ call.queries = [degreeSquare.reprojectionText 3857] ∧
      (SpatialReference.resolveSrid 3857).result squareServer call.queries =
        .ok call.left.reference := by
  intro call
  have referenced : IsReferenced degreeSquare 3857 := by
    constructor <;> decide +kernel
  have finite : ∀ value ∈ degreeSquare.coordinates, value.isFinite = true := by decide +kernel
  have read : ∀ index < 4, (squareRow.number index).isOk = true := by decide +kernel
  have holds : HoldsExtent squareRow := by
    refine ⟨?_, ⟨"EPSG", rfl⟩, ⟨3857, "3857", rfl, by decide +kernel⟩, ⟨none, rfl⟩⟩
    intro index below
    cases number : squareRow.number index with
    | ok value => exact ⟨value, Row.number_eq_ok_iff.mp number⟩
    | error error =>
      have readable := read index below
      rw [number] at readable
      cases readable
  obtain ⟨-, -, asked⟩ := reprojection_takes_one_query squareServer [] degreeSquare 3857
  obtain ⟨decided, -, agrees⟩ := (asked referenced).2 finite
  have queries : call.queries = [degreeSquare.reprojectionText 3857] := decided.queries_eq
  refine ⟨decided.succeeds_iff.mpr ⟨squareRow, rfl, holds⟩, queries, ?_⟩
  rw [queries]
  refine agrees squareRow _ _ rfl holds rfl ?_
  intro offset below
  match offset with
  | 0 => rfl
  | 1 => rfl
  | 2 => rfl

end Extent

end SpatialFilter
