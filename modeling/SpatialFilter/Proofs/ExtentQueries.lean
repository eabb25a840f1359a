import Mathlib.Algebra.GroupWithZero.Nat
import Mathlib.Data.List.DropRight
import SpatialFilter.Proofs.AggregatedExtents
import SpatialFilter.Proofs.LayerCatalogs
import SpatialFilter.Proofs.Words

/-!
# The query of an aggregation

The extent query has one subquery for each place where a layer of the list has a geometry column.
Places are told apart by their position in the list and their index among the columns, so that a
layer that is listed twice has its columns twice, each time under the filter of that position.
`columnPlaces` lists them in order, and the main statement is that the query is made of exactly
these (`extent_query_has_each_column_once`).  Blanks are trimmed off a whole subquery, which comes
to trimming the filter, since what stands in front of it ends in a quote.
-/

namespace SpatialFilter

open SpatialFilter.Database
open SpatialFilter.Text

/-! ## Subqueries -/

namespace Sql

theorem exists_toList_quoteIdentifier (name : String) :
    ∃ front, (quoteIdentifier name).toList = front ++ ['"'] := by
  refine ⟨'"' :: escapeQuotes '"' false name.toList, ?_⟩
  simp [quoteIdentifier, quoted]

end Sql

/-- A geometry column at a place of a list of layers, with the filter for that place. -/
structure ColumnPlace where
  /-- The position of the layer in the list. -/
  position : Nat
  /-- The index of the column among those of the layer. -/
  index : Nat
  layer : Layer
  column : String
  filter : String

namespace ColumnPlace

/-- The place is one of the lists: the layer and the filter stand at its position, and the column at
its index in that layer. -/
structure IsOf (layers : List Layer) (filters : List String) (place : ColumnPlace) : Prop where
  layer_at : layers[place.position]? = some place.layer
  filter_at : filters[place.position]? = some place.filter
  column_at : place.layer.geometryColumns[place.index]? = some place.column

/-- Positions come first, and indices within a position. -/
def Precedes (place other : ColumnPlace) : Prop :=
  place.position < other.position ∨ place.position = other.position ∧ place.index < other.index

/-- What a filter adds to a subquery: nothing if it is blank, and else a space and the filter
without the blanks at its end. -/
def clause (filter : String) : String :=
  if filter.toList.all isBlank then ""
  else " " ++ String.ofList (filter.toList.rdropWhile isBlank)

def sql (place : ColumnPlace) : String :=
  "(SELECT " ++ Sql.quoteIdentifier place.column ++ "::geometry AS \"the_geom\" FROM " ++
    place.layer.tableName ++ clause place.filter ++ ")"

end ColumnPlace

namespace Extent

/-- The part of a subquery in front of the filter. -/
def selection (layer : Layer) (column : String) : String :=
  "(SELECT " ++ Sql.quoteIdentifier column ++ "::geometry AS \"the_geom\" FROM " ++ layer.tableName

theorem exists_toList_selection (layer : Layer) (column : String) :
    ∃ front, (selection layer column).toList = front ++ ['"'] := by
  obtain ⟨front, table_eq⟩ := Sql.exists_toList_quoteIdentifier layer.name
  refine ⟨("(SELECT " ++ Sql.quoteIdentifier column ++ "::geometry AS \"the_geom\" FROM " ++
    Sql.quoteIdentifier layer.schema ++ ".").toList ++ front, ?_⟩
  simp [selection, Layer.tableName, Sql.tableName, table_eq]

/-- The subquery of a column is made of what stands in front of the filter and the filter without
the blanks at its end. -/
theorem branch_eq (layer : Layer) (filter column : String) :
    branch layer filter column =
      selection layer column ++ ColumnPlace.clause filter ++ ")" := by
  obtain ⟨front, selection_eq⟩ := exists_toList_selection layer column
  have text_eq : branch layer filter column =
      String.ofList (trimEnd ((selection layer column).toList ++ ' ' :: filter.toList)) ++ ")" := by
    simp [branch, selection]
  rw [text_eq]
  unfold ColumnPlace.clause
  by_cases blank : filter.toList.all isBlank = true
  · have gap : AllBlank (' ' :: filter.toList) :=
      List.forall_mem_cons.mpr ⟨by decide, List.all_eq_true.mp blank⟩
    rw [if_pos blank, trimEnd_append_of_allBlank gap, selection_eq, trimEnd_concat (by decide),
      ← selection_eq, String.ofList_toList, String.append_empty]
  · have shown : ¬ AllBlank filter.toList := fun gap => blank (List.all_eq_true.mpr gap)
    have cut : (selection layer column).toList ++ ' ' :: filter.toList =
        ((selection layer column).toList ++ [' ']) ++ filter.toList := by simp
    rw [if_neg blank, cut, trimEnd_append_of_not_allBlank shown]
    simp [trimEnd, List.rdropWhile, String.ofList_append, String.append_assoc]

/-- Blanks at the end of a filter make no difference. -/
theorem branch_append_blanks {gap : String} (blank : AllBlank gap.toList) (layer : Layer)
    (filter column : String) :
    branch layer (filter ++ gap) column = branch layer filter column := by
  unfold branch
  simp only [String.toList_append, ← List.append_assoc, trimEnd_append_of_allBlank blank]

/-! ## Places -/

/-- The geometry columns of the layers, layer by layer and within a layer column by column. -/
def columnPlaces (layers : List Layer) (filters : List String) : List ColumnPlace :=
  (layers.zip filters).zipIdx.flatMap fun ((layer, filter), position) =>
    layer.geometryColumns.zipIdx.map fun (column, index) =>
      ⟨position, index, layer, column, filter⟩

variable {layers : List Layer} {filters : List String}

theorem mem_columnPlaces {place : ColumnPlace} :
    place ∈ columnPlaces layers filters ↔ place.IsOf layers filters := by
  unfold columnPlaces
  simp only [List.mem_flatMap, List.mem_map, Prod.exists]
  constructor
  · rintro ⟨layer, filter, position, here, column, index, there, rfl⟩
    rw [List.mk_mem_zipIdx_iff_getElem?, List.getElem?_zip_eq_some] at here
    exact ⟨here.1, here.2, List.mk_mem_zipIdx_iff_getElem?.mp there⟩
  · rintro ⟨layer_at, filter_at, column_at⟩
    refine ⟨place.layer, place.filter, place.position, ?_, place.column, place.index, ?_, rfl⟩
    · rw [List.mk_mem_zipIdx_iff_getElem?, List.getElem?_zip_eq_some]
      exact ⟨layer_at, filter_at⟩
    · exact List.mk_mem_zipIdx_iff_getElem?.mpr column_at

/-- The positions of a list increase. -/
theorem pairwise_zipIdx {α : Type} (values : List α) :
    values.zipIdx.Pairwise fun one other => one.2 < other.2 := by
  rw [← List.pairwise_map, List.zipIdx_map_snd]
  exact List.pairwise_lt_range'

/-- The places come in the order of the layers, and within a layer in the order of its columns. -/
theorem pairwise_columnPlaces : (columnPlaces layers filters).Pairwise ColumnPlace.Precedes := by
  unfold columnPlaces
  rw [List.pairwise_flatMap]
  constructor
  · -- Within a layer the indices increase.
    rintro ⟨⟨layer, filter⟩, position⟩ -
    rw [List.pairwise_map]
    exact (pairwise_zipIdx layer.geometryColumns).imp fun later => .inr ⟨rfl, later⟩
  · apply (pairwise_zipIdx _).imp
    intro one other later place member place' member'
    obtain ⟨_, -, rfl⟩ := List.mem_map.mp member
    obtain ⟨_, -, rfl⟩ := List.mem_map.mp member'
    exact .inl later

/-- The subqueries of one layer. -/
theorem map_sql_of_layer (layer : Layer) (filter : String) (position : Nat) :
    (layer.geometryColumns.zipIdx.map fun (column, index) =>
      (⟨position, index, layer, column, filter⟩ : ColumnPlace)).map ColumnPlace.sql =
      layer.geometryColumns.map (branch layer filter) := by
  calc _ = layer.geometryColumns.zipIdx.map fun entry => branch layer filter entry.1 := by
        rw [List.map_map]
        apply List.map_congr_left
        intro entry _
        exact (branch_eq layer filter entry.1).symm
    _ = (layer.geometryColumns.zipIdx.map Prod.fst).map (branch layer filter) := by
        rw [List.map_map]
        rfl
    _ = layer.geometryColumns.map (branch layer filter) := by rw [List.zipIdx_map_fst]

/-- The subqueries of the places are those that an aggregation collects. -/
theorem map_sql_columnPlaces (layers : List Layer) (filters : List String) :
    (columnPlaces layers filters).map ColumnPlace.sql = (layers.zip filters).flatMap
      fun (layer, filter) => layer.geometryColumns.map (branch layer filter) := by
  calc (columnPlaces layers filters).map ColumnPlace.sql
      = (layers.zip filters).zipIdx.flatMap fun entry =>
          entry.1.1.geometryColumns.map (branch entry.1.1 entry.1.2) := by
        rw [columnPlaces, List.map_flatMap]
        apply List.flatMap_congr
        intro entry _
        exact map_sql_of_layer entry.1.1 entry.1.2 entry.2
    _ = ((layers.zip filters).zipIdx.map Prod.fst).flatMap fun (layer, filter) =>
          layer.geometryColumns.map (branch layer filter) := by
        rw [List.flatMap_map]
    _ = (layers.zip filters).flatMap fun (layer, filter) =>
          layer.geometryColumns.map (branch layer filter) := by rw [List.zipIdx_map_fst]

/-- There are as many places as the layers have columns together. -/
theorem length_columnPlaces (paired : layers.length = filters.length) :
    (columnPlaces layers filters).length =
      (layers.map fun layer => layer.geometryColumns.length).sum := by
  have first : (layers.zip filters).map Prod.fst = layers :=
    List.map_fst_zip (Nat.le_of_eq paired)
  calc (columnPlaces layers filters).length
      = ((columnPlaces layers filters).map ColumnPlace.sql).length := (List.length_map _).symm
    _ = (((layers.zip filters).map Prod.fst).map fun layer =>
          layer.geometryColumns.length).sum := by
        rw [map_sql_columnPlaces, List.length_flatMap, List.map_map]
        simp only [List.length_map]
        rfl
    _ = (layers.map fun layer => layer.geometryColumns.length).sum := by rw [first]

/-! ## Layers with columns -/

/-- A layer of a catalog has geometry columns. -/
theorem geometryColumns_ne_nil {catalog : LayerCatalog} {name : String} {layer : Layer}
    (configured : catalog.get? name = some layer) : layer.geometryColumns ≠ [] :=
  catalog.followRules.some_column layer (List.mem_of_find?_eq_some configured)

theorem columnPlaces_ne_nil {catalog : LayerCatalog} {names : List String}
    (paired : layers.length = filters.length) (some_layer : layers ≠ [])
    (are_stored : AreStored catalog names layers) : columnPlaces layers filters ≠ [] := by
  cases are_stored with
  | nil => exact absurd rfl some_layer
  | @cons name layer _ rest configured others =>
    obtain ⟨filter, filters, rfl⟩ := List.exists_cons_of_length_eq_add_one paired.symm
    obtain ⟨column, columns, columns_eq⟩ :=
      List.exists_cons_of_ne_nil (geometryColumns_ne_nil configured)
    have first : (⟨0, 0, layer, column, filter⟩ : ColumnPlace).IsOf (layer :: rest)
        (filter :: filters) := ⟨rfl, rfl, by simp [columns_eq]⟩
    exact List.ne_nil_of_mem (mem_columnPlaces.mpr first)

/-! ## The query -/

/-- Each filter of the second list is that of the first with some blanks behind it. -/
def SameUpToBlanks (filters others : List String) : Prop :=
  List.Forall₂ (fun filter other => ∃ gap : String, AllBlank gap.toList ∧ other = filter ++ gap)
    filters others

/-- Filters that differ in the blanks at their ends give the same subqueries. -/
theorem branches_of_sameUpToBlanks {others : List String} (catalog : LayerCatalog)
    (same : SameUpToBlanks filters others) (names : List String) :
    branches catalog (names.zip others) = branches catalog (names.zip filters) := by
  induction same generalizing names with
  | nil => simp
  | cons padded _ ih =>
    obtain ⟨gap, blank, rfl⟩ := padded
    cases names with
    | nil => rfl
    | cons name rest =>
      have same_branch : ∀ layer filter, branch layer (filter ++ gap) = branch layer filter := by
        intro layer filter
        funext column
        exact branch_append_blanks blank layer filter column
      simp only [List.zip_cons_cons, branches, ih, same_branch]

/-- Blanks at the end of filters change nothing about an aggregation. -/
theorem aggregate_of_sameUpToBlanks {others : List String} (catalog : LayerCatalog)
    (same : SameUpToBlanks filters others) (names : List String) :
    aggregate catalog names others = aggregate catalog names filters := by
  unfold aggregate
  rw [← same.length_eq]
  cases names with
  | nil => rfl
  | cons first rest => simp only [branches_of_sameUpToBlanks catalog same]

def queryLead : String :=
  "SELECT ST_XMin(g.extent), ST_YMin(g.extent), ST_XMax(g.extent), ST_YMax(g.extent) " ++
    "FROM (SELECT ST_Extent(foo.the_geom) AS extent FROM ("

def queryTail : String := ") AS foo) AS g"

theorem extentQuery_eq (layers : List Layer) (filters : List String) :
    extentQuery layers filters = queryLead ++
      String.intercalate " UNION ALL " ((columnPlaces layers filters).map ColumnPlace.sql) ++
        queryTail := by
  rw [map_sql_columnPlaces]
  rfl

/-- The extent query comes first, and what may follow is a lookup of the first layer's reference. -/
theorem aggregate_queries {catalog : LayerCatalog} {names : List String}
    (paired : names.length = filters.length) (some_layer : layers ≠ [])
    (are_stored : AreStored catalog names layers) (server : Server) (earlier : List String) :
    ∃ lookups, (aggregate catalog names filters).queries server earlier =
        extentQuery layers filters :: lookups ∧
      ∀ lookup ∈ lookups, ∃ srid, lookup = SpatialReference.queryBySrid srid := by
  obtain ⟨first, others, rfl⟩ := List.exists_cons_of_ne_nil some_layer
  rw [aggregate_of_areStored paired are_stored, Lookup.queries_bind, Lookup.queries_query,
    Lookup.result_query]
  refine ⟨_, rfl, ?_⟩
  cases server.reply earlier (extentQuery (first :: others) filters) with
  | error error => simp [Except.mapError]
  | ok rows =>
    dsimp only [Except.mapError]
    rw [Lookup.queries_adapt]
    obtain ⟨_, queries, ending⟩ := exists_answerEnding server
      (earlier ++ [extentQuery (first :: others) filters]) first.srid rows
    rw [ending.ends.2]
    have by_srid : ∀ lookup ∈ SpatialReference.queriesBySrid first.srid,
        ∃ srid, lookup = SpatialReference.queryBySrid srid := by
      unfold SpatialReference.queriesBySrid
      split
      · simp
      · simp
    cases ending with
    | noRow | noData => simp
    | unresolved | unread | found => exact by_srid

/-- For configured layers and as many filters, the extent query has one subquery for each place
where one of the layers has a geometry column, in the order of places: the column and the table of
the layer at that position, under the filter at that position.  There is at least one, and blanks at
the end of filters change nothing.  All this is so whatever the database replies. -/
theorem extent_query_has_each_column_once {catalog : LayerCatalog} {names filters : List String}
    {layers : List Layer} (paired : names.length = filters.length) (some_name : names ≠ [])
    (are_stored : AreStored catalog names layers) :
    ∃ places : List ColumnPlace,
      places.Pairwise ColumnPlace.Precedes ∧
        (∀ place, place ∈ places ↔ place.IsOf layers filters) ∧
        places.length = (layers.map fun layer => layer.geometryColumns.length).sum ∧
        places ≠ [] ∧
        (∀ server earlier, ∃ lookups,
          (aggregate catalog names filters).queries server earlier =
              (queryLead ++ String.intercalate " UNION ALL " (places.map ColumnPlace.sql) ++
                queryTail) :: lookups ∧
            ∀ lookup ∈ lookups, ∃ srid, lookup = SpatialReference.queryBySrid srid) ∧
        ∀ others, SameUpToBlanks filters others →
          aggregate catalog names others = aggregate catalog names filters := by
  have layers_paired : layers.length = filters.length := are_stored.length_eq.symm.trans paired
  have some_layer : layers ≠ [] := by
    rintro rfl
    exact some_name (List.forall₂_nil_right_iff.mp are_stored)
  refine ⟨columnPlaces layers filters, pairwise_columnPlaces, fun _ => mem_columnPlaces,
    length_columnPlaces layers_paired, columnPlaces_ne_nil layers_paired some_layer are_stored,
    ?_, fun others same => aggregate_of_sameUpToBlanks catalog same names⟩
  rw [← extentQuery_eq]
  exact aggregate_queries paired some_layer are_stored

/-! ## Roads twice and towns between -/

/-- Roads have two columns. -/
def twoColumnRoads : Layer := ⟨"roads", "public", 2154, .meters, ["geom", "centerline"]⟩

/-- Towns have one, in degrees. -/
def towns : Layer := ⟨"towns", "public", 4326, .degrees, ["the_geom"]⟩

/-- A service of roads and towns. -/
def townCatalog : LayerCatalog := ⟨[twoColumnRoads, towns], by decide⟩

/-- The first filter stands with the first roads only, without the blanks behind it. -/
theorem roads_and_towns_have_five_subqueries :
    ∃ places : List ColumnPlace, places.length = 5 ∧
      (∃ place ∈ places, place.position = 0 ∧ place.sql =
        "(SELECT \"geom\"::geometry AS \"the_geom\" FROM \"public\".\"roads\" WHERE id = 3)") ∧
      (∃ place ∈ places, place.position = 2 ∧ place.sql =
        "(SELECT \"geom\"::geometry AS \"the_geom\" FROM \"public\".\"roads\")") ∧
      ∀ server earlier, ∃ lookups,
        (aggregate townCatalog ["roads", "towns", "roads"] ["WHERE id = 3 \t", "", "\n"]).queries
            server earlier =
          (queryLead ++ String.intercalate " UNION ALL " (places.map ColumnPlace.sql) ++
            queryTail) :: lookups := by
  have are_stored : AreStored townCatalog ["roads", "towns", "roads"]
      [twoColumnRoads, towns, twoColumnRoads] := .cons rfl (.cons rfl (.cons rfl .nil))
  obtain ⟨places, -, places_iff, length_eq, -, queries, -⟩ :=
    @extent_query_has_each_column_once townCatalog ["roads", "towns", "roads"]
      ["WHERE id = 3 \t", "", "\n"] _ rfl (List.cons_ne_nil _ _) are_stored
  refine ⟨places, length_eq, ⟨⟨0, 0, twoColumnRoads, "geom", "WHERE id = 3 \t"⟩, ?_, rfl, ?_⟩,
    ⟨⟨2, 0, twoColumnRoads, "geom", "\n"⟩, ?_, rfl, ?_⟩, ?_⟩
  · exact (places_iff _).mpr ⟨rfl, rfl, rfl⟩
  · decide +kernel
  · exact (places_iff _).mpr ⟨rfl, rfl, rfl⟩
  · decide +kernel
  · intro server earlier
    obtain ⟨lookups, queries_eq, -⟩ := queries server earlier
    exact ⟨lookups, queries_eq⟩

end Extent

end SpatialFilter
