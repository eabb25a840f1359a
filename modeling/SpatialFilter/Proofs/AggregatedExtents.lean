import Mathlib.Data.List.Forall2
import Mathlib.Data.Nat.Find
import SpatialFilter.Extent.Aggregate
import SpatialFilter.Proofs.LookupOutcomes

/-!
# How aggregations end

An aggregation decides in a fixed order: whether there is anything to ask, whether all layers are
configured, what the database replies, whether there is data, which reference the first layer has,
and last what the cells say.  `AnswerEnding` lists how an answer is taken, and `AggregationEnding`
how the whole aggregation ends, each way with the queries that it puts.  The lists are complete and
no two ways meet (`aggregation_ends_iff`).
-/

namespace SpatialFilter

open SpatialFilter.Number
open SpatialFilter.Database

variable {server : Server} {earlier : List String}

/-! ## Faults of cells -/

namespace Database.Row

variable {row : Row} {index : Nat}

/-- The fault of a cell that is not there or holds a text that is no number. -/
inductive HasFault (row : Row) (index : Nat) : ShapeFault → Prop
  | noColumn (absent : row.cells[index]? = none) : HasFault row index (.noColumn index)
  | notNumber {content : String} (holds : row.cells[index]? = some (some content))
      (unread : Binary64.read? (Text.trim content.toList) = none) :
      HasFault row index (.notNumber index content)

/-- The fault of the first cell, among the first four, that holds no number. -/
def FirstFault (row : Row) (fault : ShapeFault) : Prop :=
  ∃ index < 4, row.HasFault index fault ∧
    ∀ before < index, ∃ value, row.HoldsNumber before value

theorem number_of_fault {fault : ShapeFault} (faulty : row.HasFault index fault) :
    row.number index = .error (.shape fault) := by
  unfold number text optionalText
  cases faulty with
  | noColumn absent =>
    rw [absent]
    rfl
  | notNumber holds unread =>
    rw [holds]
    simp [bind, Except.bind, unread]

/-- A cell that is not NULL holds a number or has a fault. -/
theorem holdsNumber_or_hasFault (not_null : row.cells[index]? ≠ some none) :
    (∃ value, row.HoldsNumber index value) ∨ ∃ fault, row.HasFault index fault := by
  rcases cell : row.cells[index]? with _ | _ | content
  · exact .inr ⟨_, .noColumn cell⟩
  · exact absurd cell not_null
  · cases read : Binary64.read? (Text.trim content.toList) with
    | none => exact .inr ⟨_, .notNumber cell read⟩
    | some value => exact .inl ⟨value, content, cell, read⟩

end Database.Row

/-! ## Answers -/

namespace SpatialReference

/-- The queries of a lookup by srid: none for the unset srid. -/
def queriesBySrid (srid : Int32) : List String :=
  if srid = unsetSrid then [] else [queryBySrid srid]

theorem resolveSrid_queries (srid : Int32) :
    (resolveSrid srid).queries server earlier = queriesBySrid srid := by
  unfold queriesBySrid
  split
  next unset_srid =>
    rw [unset_srid]
    rfl
  next given => rw [resolveSrid_eq_takeRow given, takeRow_queries]

end SpatialReference

namespace Extent

/-- The first cell that holds no number decides the error. -/
theorem ofRow_of_firstFault {row : Row} {fault : ShapeFault} (first : row.FirstFault fault)
    (reference : SpatialReference) : ofRow row reference = .error (.shape fault) := by
  obtain ⟨index, below, faulty, numbers⟩ := first
  have failed := Row.number_of_fault faulty
  have read : ∀ before < index, ∃ value, row.number before = .ok value := by
    simpa only [Row.number_eq_ok_iff] using numbers
  unfold ofRow
  -- The cells in front of the faulty one are read, and those behind it are not.
  match index with
  | 0 =>
    rw [failed]
    rfl
  | 1 =>
    obtain ⟨xmin, xmin_read⟩ := read 0 (by decide)
    rw [xmin_read, failed]
    rfl
  | 2 =>
    obtain ⟨xmin, xmin_read⟩ := read 0 (by decide)
    obtain ⟨ymin, ymin_read⟩ := read 1 (by decide)
    rw [xmin_read, ymin_read, failed]
    rfl
  | 3 =>
    obtain ⟨xmin, xmin_read⟩ := read 0 (by decide)
    obtain ⟨ymin, ymin_read⟩ := read 1 (by decide)
    obtain ⟨xmax, xmax_read⟩ := read 2 (by decide)
    rw [xmin_read, ymin_read, xmax_read, failed]
    rfl

/-- A row with data has four numbers or a first fault. -/
theorem hasCoordinates_or_firstFault {row : Row} (data : row.HasData)
    (reference : SpatialReference) :
    (∃ next : Extent, next.reference = reference ∧ HasCoordinates row next) ∨
      ∃ fault, row.FirstFault fault := by
  classical
  by_cases numbers : ∀ index < 4, ∃ value, row.HoldsNumber index value
  · exact .inl ((exists_hasCoordinates_iff reference).mpr numbers)
  · have missing : ∃ index, index < 4 ∧ ¬ ∃ value, row.HoldsNumber index value := by
      simpa using numbers
    obtain ⟨below, no_number⟩ := Nat.find_spec missing
    obtain ⟨fault, faulty⟩ := (Row.holdsNumber_or_hasFault (data _ below)).resolve_left no_number
    refine .inr ⟨fault, Nat.find missing, below, faulty, ?_⟩
    intro before sooner
    have not_missing := Nat.find_min missing sooner
    exact Classical.not_not.mp fun no_value =>
      not_missing ⟨Nat.lt_trans sooner below, no_value⟩

/-- The ways in which the answer to an aggregate query can be taken, for layers the first of which
is stored under `srid`: each with its result and with the queries that are put after it. -/
inductive AnswerEnding (server : Server) (earlier : List String) (srid : Int32) :
    List Row → Except ExtentError Extent → List String → Prop
  /-- There is no row. -/
  | noRow : AnswerEnding server earlier srid [] (.ok unbounded) []
  /-- A coordinate of the first row is NULL. -/
  | noData {row : Row} {rest : List Row} {index : Nat} (below : index < 4)
      (null : row.cells[index]? = some none) :
      AnswerEnding server earlier srid (row :: rest) (.ok unbounded) []
  /-- The srid does not resolve. -/
  | unresolved {row : Row} {rest : List Row} {error : ReferenceError} (data : row.HasData)
      (failed : (SpatialReference.resolveSrid srid).result server earlier = .error error) :
      AnswerEnding server earlier srid (row :: rest) (.error (.reference error))
        (SpatialReference.queriesBySrid srid)
  /-- The srid resolves, and some cell holds no number. -/
  | unread {row : Row} {rest : List Row} {reference : SpatialReference} {fault : ShapeFault}
      (data : row.HasData)
      (resolved : (SpatialReference.resolveSrid srid).result server earlier = .ok reference)
      (first : row.FirstFault fault) :
      AnswerEnding server earlier srid (row :: rest) (.error (.engine (.shape fault)))
        (SpatialReference.queriesBySrid srid)
  /-- The srid resolves, and the cells hold four numbers. -/
  | found {row : Row} {rest : List Row} {next : Extent}
      (resolved : (SpatialReference.resolveSrid srid).result server earlier = .ok next.reference)
      (coordinates : HasCoordinates row next) :
      AnswerEnding server earlier srid (row :: rest) (.ok next)
        (SpatialReference.queriesBySrid srid)

/-- An answer with data goes on to the reference, and from there to the cells. -/
theorem ofAnswer_of_hasData {srid : Int32} {row : Row} {rest : List Row} (data : row.HasData) :
    (ofAnswer srid (row :: rest)).result server earlier =
        (match (SpatialReference.resolveSrid srid).result server earlier with
          | .ok reference => (ofRow row reference).mapError .engine
          | .error error => .error (.reference error)) ∧
      (ofAnswer srid (row :: rest)).queries server earlier =
        SpatialReference.queriesBySrid srid := by
  rw [Row.hasData_iff] at data
  unfold ofAnswer
  simp only [data, Bool.false_eq_true, if_false]
  rw [Lookup.result_bind, Lookup.queries_bind, Lookup.result_adapt, Lookup.queries_adapt,
    SpatialReference.resolveSrid_queries]
  cases (SpatialReference.resolveSrid srid).result server earlier with
  | ok reference => exact ⟨rfl, List.append_nil _⟩
  | error error => exact ⟨rfl, List.append_nil _⟩

/-- The answer is taken in no other way than the one that its case describes. -/
theorem AnswerEnding.ends {srid : Int32} {rows : List Row} {result : Except ExtentError Extent}
    {queries : List String} (ending : AnswerEnding server earlier srid rows result queries) :
    (ofAnswer srid rows).result server earlier = result ∧
      (ofAnswer srid rows).queries server earlier = queries := by
  cases ending with
  | noRow => exact ⟨rfl, rfl⟩
  | @noData row rest index below null =>
    have no_data : (List.range 4).any row.isNull = true := by
      rw [List.any_eq_true]
      exact ⟨index, List.mem_range.mpr below, by simp [Row.isNull, null]⟩
    unfold ofAnswer
    simp only [no_data, if_true]
    exact ⟨rfl, rfl⟩
  | unresolved data failed =>
    obtain ⟨result_eq, queries_eq⟩ := ofAnswer_of_hasData data
    rw [failed] at result_eq
    exact ⟨result_eq, queries_eq⟩
  | unread data resolved first =>
    obtain ⟨result_eq, queries_eq⟩ := ofAnswer_of_hasData data
    rw [resolved] at result_eq
    dsimp only at result_eq
    rw [ofRow_of_firstFault first] at result_eq
    exact ⟨result_eq, queries_eq⟩
  | found resolved coordinates =>
    obtain ⟨result_eq, queries_eq⟩ := ofAnswer_of_hasData coordinates.hasData
    rw [resolved] at result_eq
    dsimp only at result_eq
    rw [ofRow_eq_ok_iff.mpr ⟨coordinates, rfl⟩] at result_eq
    exact ⟨result_eq, queries_eq⟩

/-- Every answer is taken in one of the ways. -/
theorem exists_answerEnding (server : Server) (earlier : List String) (srid : Int32)
    (rows : List Row) :
    ∃ result queries, AnswerEnding server earlier srid rows result queries := by
  cases rows with
  | nil => exact ⟨_, _, .noRow⟩
  | cons row rest =>
    by_cases data : row.HasData
    · cases outcome : (SpatialReference.resolveSrid srid).result server earlier with
      | error error => exact ⟨_, _, .unresolved data outcome⟩
      | ok reference =>
        rcases hasCoordinates_or_firstFault data reference with
          ⟨next, rfl, coordinates⟩ | ⟨fault, first⟩
        · exact ⟨_, _, .found outcome coordinates⟩
        · exact ⟨_, _, .unread data outcome first⟩
    · simp only [Row.HasData, not_forall, Classical.not_not] at data
      obtain ⟨index, below, null⟩ := data
      exact ⟨_, _, .noData below null⟩

/-! ## Layers -/

/-- The layers of the names, in order. -/
def AreStored (catalog : LayerCatalog) (names : List String) (stored : List Layer) : Prop :=
  List.Forall₂ (fun name layer => catalog.get? name = some layer) names stored

/-- The query for the extent of every geometry column of the layers, each layer under its filter. -/
def extentQuery (layers : List Layer) (filters : List String) : String :=
  aggregateQuery ((layers.zip filters).flatMap fun (layer, filter) =>
    layer.geometryColumns.map (branch layer filter))

variable {catalog : LayerCatalog} {names filters : List String} {stored : List Layer}

/-- Where every name has a layer, there is a subquery for each column of each layer, in order. -/
theorem branches_of_areStored (paired : names.length = filters.length)
    (are_stored : AreStored catalog names stored) :
    branches catalog (names.zip filters) = .ok ((stored.zip filters).flatMap
      fun (layer, filter) => layer.geometryColumns.map (branch layer filter)) := by
  induction are_stored generalizing filters with
  | nil => rfl
  | @cons name layer names stored configured others ih =>
    obtain ⟨filter, filters, rfl⟩ := List.exists_cons_of_length_eq_add_one paired.symm
    have rest := ih (Nat.succ.inj paired)
    simp [branches, LayerCatalog.require, configured, rest, bind, Except.bind, pure, Except.pure]

/-- The first name without a layer stops the collection of subqueries. -/
theorem branches_of_unconfigured {before after : List String} {name : String}
    (paired : (before ++ name :: after).length = filters.length)
    (configured : ∀ other ∈ before, catalog.get? other ≠ none)
    (missing : catalog.get? name = none) :
    branches catalog ((before ++ name :: after).zip filters) = .error (.unconfigured name) := by
  induction before generalizing filters with
  | nil =>
    obtain ⟨filter, filters, rfl⟩ := List.exists_cons_of_length_eq_add_one paired.symm
    simp [branches, LayerCatalog.require, missing, bind, Except.bind]
  | cons other before ih =>
    obtain ⟨filter, filters, rfl⟩ := List.exists_cons_of_length_eq_add_one paired.symm
    obtain ⟨layer, found⟩ := Option.ne_none_iff_exists'.mp (configured other List.mem_cons_self)
    have rest := ih (Nat.succ.inj paired) fun next member =>
      configured next (List.mem_cons_of_mem _ member)
    simp [branches, LayerCatalog.require, found, rest, bind, Except.bind]

/-- All names have layers, or there is a first one without. -/
theorem areStored_or_unconfigured (catalog : LayerCatalog) (names : List String) :
    (∃ stored, AreStored catalog names stored) ∨
      ∃ before name after, names = before ++ name :: after ∧
        (∀ other ∈ before, catalog.get? other ≠ none) ∧ catalog.get? name = none := by
  induction names with
  | nil => exact .inl ⟨[], .nil⟩
  | cons name rest ih =>
    cases found : catalog.get? name with
    | none => exact .inr ⟨[], name, rest, rfl, nofun, found⟩
    | some layer =>
      rcases ih with ⟨stored, others⟩ | ⟨before, missing_name, after, rfl, configured, missing⟩
      · exact .inl ⟨layer :: stored, .cons found others⟩
      · refine .inr ⟨name :: before, missing_name, after, rfl, ?_, missing⟩
        rw [List.forall_mem_cons]
        exact ⟨by simp [found], configured⟩

/-! ## Aggregations -/

/-- The ways in which an aggregation can end: each with its result and its queries. -/
inductive AggregationEnding (catalog : LayerCatalog) (server : Server) (earlier : List String) :
    List String → List String → Except (Interruption ExtentError) Extent → List String → Prop
  /-- There are no layers, or another number of filters. -/
  | skipped {names filters : List String} (nothing : names.length ≠ filters.length ∨ names = []) :
      AggregationEnding catalog server earlier names filters (.ok unbounded) []
  /-- Some layer is not configured: the first one is reported. -/
  | unconfigured {before after filters : List String} {name : String}
      (paired : (before ++ name :: after).length = filters.length)
      (configured : ∀ other ∈ before, catalog.get? other ≠ none)
      (missing : catalog.get? name = none) :
      AggregationEnding catalog server earlier (before ++ name :: after) filters
        (.error (.unconfigured name)) []
  /-- The database refuses the extent query. -/
  | refused {names filters : List String} {first : Layer} {others : List Layer}
      {error : QueryError} (paired : names.length = filters.length)
      (are_stored : AreStored catalog names (first :: others))
      (reply : server.reply earlier (extentQuery (first :: others) filters) = .error error) :
      AggregationEnding catalog server earlier names filters (.error (.failed (.engine error)))
        [extentQuery (first :: others) filters]
  /-- The database answers the extent query, and the answer is taken for the first layer. -/
  | answered {names filters : List String} {first : Layer} {others : List Layer}
      {rows : List Row} {result : Except ExtentError Extent} {queries : List String}
      (paired : names.length = filters.length)
      (are_stored : AreStored catalog names (first :: others))
      (reply : server.reply earlier (extentQuery (first :: others) filters) = .ok rows)
      (ending : AnswerEnding server (earlier ++ [extentQuery (first :: others) filters]) first.srid
        rows result queries) :
      AggregationEnding catalog server earlier names filters (result.mapError .failed)
        (extentQuery (first :: others) filters :: queries)

/-- With all layers configured, an aggregation puts the extent query and takes the answer. -/
theorem aggregate_of_areStored {first : Layer} {others : List Layer}
    (paired : names.length = filters.length)
    (are_stored : AreStored catalog names (first :: others)) :
    aggregate catalog names filters = (do
      let rows ← query (fun error => .failed (.engine error))
        (extentQuery (first :: others) filters)
      (ofAnswer first.srid rows).adapt .failed) := by
  have parts := branches_of_areStored paired are_stored
  cases are_stored with
  | @cons name _ rest _ configured stored =>
    have srid : catalog.srid name = (.ok first.srid : Except (Interruption ExtentError) Int32) := by
      simp [LayerCatalog.srid, LayerCatalog.require, configured, Except.map]
    unfold aggregate
    simp only [paired, bne_self_eq_false, Bool.false_eq_true, if_false]
    rw [parts, srid]
    rfl

/-- Nothing is asked for a name without a layer. -/
theorem aggregate_of_unconfigured {before after : List String} {name : String}
    (paired : (before ++ name :: after).length = filters.length)
    (configured : ∀ other ∈ before, catalog.get? other ≠ none)
    (missing : catalog.get? name = none) :
    aggregate catalog (before ++ name :: after) filters =
      liftExcept id (.error (.unconfigured name)) := by
  have parts := branches_of_unconfigured paired configured missing
  unfold aggregate
  simp only [paired, bne_self_eq_false, Bool.false_eq_true, if_false]
  split
  next no_names => simp at no_names
  · rw [parts]
    rfl

theorem aggregate_of_nothing (nothing : names.length ≠ filters.length ∨ names = []) :
    aggregate catalog names filters = pure unbounded := by
  unfold aggregate
  by_cases paired : names.length = filters.length
  · obtain rfl : names = [] := nothing.resolve_left (not_not_intro paired)
    simp only [paired, bne_self_eq_false, Bool.false_eq_true, if_false]
  · rw [if_pos (bne_iff_ne.mpr paired)]

/-- An aggregation ends in no other way than the one that its case describes. -/
theorem AggregationEnding.ends {result : Except (Interruption ExtentError) Extent}
    {queries : List String}
    (ending : AggregationEnding catalog server earlier names filters result queries) :
    (aggregate catalog names filters).result server earlier = result ∧
      (aggregate catalog names filters).queries server earlier = queries := by
  cases ending with
  | skipped nothing =>
    rw [aggregate_of_nothing nothing]
    exact ⟨rfl, rfl⟩
  | unconfigured paired configured missing =>
    rw [aggregate_of_unconfigured paired configured missing]
    exact ⟨rfl, rfl⟩
  | refused paired are_stored reply =>
    rw [aggregate_of_areStored paired are_stored, Lookup.result_bind, Lookup.queries_bind,
      Lookup.result_query, Lookup.queries_query, reply]
    exact ⟨rfl, rfl⟩
  | answered paired are_stored reply ending =>
    obtain ⟨result_eq, queries_eq⟩ := ending.ends
    rw [aggregate_of_areStored paired are_stored, Lookup.result_bind, Lookup.queries_bind,
      Lookup.result_query, Lookup.queries_query, reply]
    dsimp only [Except.mapError]
    rw [Lookup.result_adapt, Lookup.queries_adapt, result_eq, queries_eq]
    exact ⟨rfl, rfl⟩

/-- Every aggregation ends in one of the ways. -/
theorem exists_aggregationEnding (catalog : LayerCatalog) (server : Server)
    (earlier names filters : List String) :
    ∃ result queries, AggregationEnding catalog server earlier names filters result queries := by
  by_cases nothing : names.length ≠ filters.length ∨ names = []
  · exact ⟨_, _, .skipped nothing⟩
  · simp only [ne_eq, not_or, Classical.not_not] at nothing
    obtain ⟨paired, some_name⟩ := nothing
    rcases areStored_or_unconfigured catalog names with
      ⟨stored, are_stored⟩ | ⟨before, name, after, rfl, configured, missing⟩
    · cases are_stored with
      | nil => exact absurd rfl some_name
      | @cons name first rest others found are_stored =>
        have all_stored : AreStored catalog (name :: rest) (first :: others) :=
          .cons found are_stored
        cases reply : server.reply earlier (extentQuery (first :: others) filters) with
        | error error => exact ⟨_, _, .refused paired all_stored reply⟩
        | ok rows =>
          obtain ⟨result, queries, ending⟩ := exists_answerEnding server
            (earlier ++ [extentQuery (first :: others) filters]) first.srid rows
          exact ⟨_, _, .answered paired all_stored reply ending⟩
    · exact ⟨_, _, .unconfigured paired configured missing⟩

/-- The result of an aggregation and its queries, in order, are exactly those of the way in which it
ends: whether there are layers and as many filters is decided before the names are looked up, the
names before anything is asked, data before the reference of the first layer is looked up, and that
before the cells are read.  References of other layers are never looked up. -/
theorem aggregation_ends_iff (catalog : LayerCatalog) (server : Server)
    (earlier names filters : List String) (result : Except (Interruption ExtentError) Extent)
    (queries : List String) :
    AggregationEnding catalog server earlier names filters result queries ↔
      (aggregate catalog names filters).result server earlier = result ∧
        (aggregate catalog names filters).queries server earlier = queries := by
  constructor
  · exact AggregationEnding.ends
  · rintro ⟨rfl, rfl⟩
    obtain ⟨result, queries, ending⟩ :=
      exists_aggregationEnding catalog server earlier names filters
    obtain ⟨result_eq, queries_eq⟩ := ending.ends
    rwa [result_eq, queries_eq]

/-- Names of missing layers make no difference where there are more names than filters. -/
example (catalog : LayerCatalog) (server : Server) :
    (aggregate catalog ["nowhere"] []).result server [] = .ok unbounded := rfl

end Extent

end SpatialFilter
