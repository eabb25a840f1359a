import SpatialFilter.Proofs.LookupOutcomes
import SpatialFilter.Proofs.QueryTexts

/-!
# Lookups in a catalog of entries

A database in memory that has entries and no scripts compares a query with the catalog queries of
its entries, kind after kind.  Since no query is of two kinds, each lookup is answered from the
entries that it asks for: a lookup by srid from those with that srid (`resolveSrid_ofEntries`), a
label likewise (`label_ofEntries`), and a lookup by authority and code from those with both, where
authorities have no quotes (`resolveCode_ofEntries`).
-/

namespace SpatialFilter

open SpatialFilter.Number
open SpatialFilter.Database

namespace Database

namespace ReferenceEntry

/-- The reference that an entry describes. -/
def reference (entry : ReferenceEntry) : SpatialReference :=
  ⟨entry.srid, entry.authority, entry.code, !isMetricDefinition entry.definition⟩

/-- Authority and code of an entry. -/
def label (entry : ReferenceEntry) : String :=
  entry.authority ++ ":" ++ int32Text entry.code

/-- The row that answers a lookup by srid. -/
def sridRow (entry : ReferenceEntry) : Row :=
  ⟨[some entry.authority, some (int32Text entry.code), entry.definition]⟩

def codeRow (entry : ReferenceEntry) : Row :=
  ⟨[some (int32Text entry.srid), entry.definition]⟩

def labelRow (entry : ReferenceEntry) : Row :=
  ⟨[some entry.label]⟩

def hasSrid (srid : Int32) (entry : ReferenceEntry) : Bool :=
  entry.srid == srid

def hasCode (authority : String) (code : Int32) (entry : ReferenceEntry) : Bool :=
  entry.authority == authority && entry.code == code

theorem hasSrid_iff {srid : Int32} {entry : ReferenceEntry} :
    entry.hasSrid srid = true ↔ entry.srid = srid := by
  simp [hasSrid]

theorem hasCode_iff {authority : String} {code : Int32} {entry : ReferenceEntry} :
    entry.hasCode authority code = true ↔ entry.authority = authority ∧ entry.code = code := by
  simp [hasCode]

theorem srid_of_filter_hasSrid {entries : List ReferenceEntry} {srid : Int32}
    {entry : ReferenceEntry} (only : entries.filter (·.hasSrid srid) = [entry]) :
    entry.srid = srid := by
  have member : entry ∈ entries.filter (·.hasSrid srid) := by simp [only]
  exact hasSrid_iff.mp (List.mem_filter.mp member).2

theorem holdsInt_of_text {row : Row} {index : Nat} {value : Int32}
    (cell : row.cells[index]? = some (some (int32Text value))) : row.HoldsInt index value := by
  refine ⟨int32Text value, cell, ?_⟩
  rw [trim_int32Text, readInt32_int32Text]

theorem ofCells_sridRow {srid : Int32} {entry : ReferenceEntry} (found : entry.srid = srid) :
    SpatialReference.ofCells srid entry.sridRow 0 = .ok entry.reference :=
  Row.ofCells_eq_ok_iff.mpr ⟨found, rfl, holdsInt_of_text rfl, entry.definition, rfl, rfl⟩

theorem ofCodeRow_codeRow {authority : String} {code : Int32} {entry : ReferenceEntry}
    (found : entry.authority = authority ∧ entry.code = code) :
    SpatialReference.ofCodeRow authority code entry.codeRow = .ok entry.reference :=
  Row.ofCodeRow_eq_ok_iff.mpr
    ⟨found.1, found.2, holdsInt_of_text rfl, entry.definition, rfl, rfl⟩

end ReferenceEntry

/-! ## Replies -/

namespace Memory

variable {memory : Memory} {query : String} {rows : List Row}

theorem rowsBySrid_of_ne (other : ∀ srid, query ≠ SpatialReference.queryBySrid srid) :
    memory.rowsBySrid query = [] := by
  simp [rowsBySrid, other]

theorem rowsByCode_of_ne
    (other : ∀ authority code, query ≠ SpatialReference.queryByCode authority code) :
    memory.rowsByCode query = [] := by
  simp [rowsByCode, other]

theorem rowsByLabel_of_ne (other : ∀ srid, query ≠ SpatialReference.queryLabel srid) :
    memory.rowsByLabel query = [] := by
  simp [rowsByLabel, other]

/-- The entries whose query this is are those that it asks for. -/
theorem filter_of_query {entries : List ReferenceEntry} {queryOf : ReferenceEntry → String}
    {asked : ReferenceEntry → Bool}
    (asks : ∀ entry ∈ entries, query = queryOf entry ↔ asked entry = true) :
    (entries.filter fun entry => query == queryOf entry) = entries.filter asked := by
  apply List.filter_congr
  intro entry member
  rw [Bool.eq_iff_iff, beq_iff_eq, asks entry member]

theorem rowsBySrid_queryBySrid (memory : Memory) (srid : Int32) :
    memory.rowsBySrid (SpatialReference.queryBySrid srid) =
      (memory.entries.filter (·.hasSrid srid)).map ReferenceEntry.sridRow := by
  apply congrArg (List.map ReferenceEntry.sridRow)
  apply filter_of_query
  intro entry _
  rw [SpatialReference.queryBySrid_inj, ReferenceEntry.hasSrid_iff, eq_comm]

theorem rowsByLabel_queryLabel (memory : Memory) (srid : Int32) :
    memory.rowsByLabel (SpatialReference.queryLabel srid) =
      (memory.entries.filter (·.hasSrid srid)).map ReferenceEntry.labelRow := by
  apply congrArg (List.map ReferenceEntry.labelRow)
  apply filter_of_query
  intro entry _
  rw [SpatialReference.queryLabel_inj, ReferenceEntry.hasSrid_iff, eq_comm]

/-- As long as no authority holds a quote, a query by code finds the entries with that authority and
code and no others. -/
theorem rowsByCode_queryByCode
    (plain : ∀ entry ∈ memory.entries, '\x27' ∉ entry.authority.toList)
    (authority : String) (code : Int32) :
    memory.rowsByCode (SpatialReference.queryByCode authority code) =
      (memory.entries.filter (·.hasCode authority code)).map ReferenceEntry.codeRow := by
  apply congrArg (List.map ReferenceEntry.codeRow)
  apply filter_of_query
  intro entry member
  rw [SpatialReference.queryByCode_inj (plain entry member), ReferenceEntry.hasCode_iff, eq_comm,
    @eq_comm _ code]

/-- A catalog query that is of one kind only is answered by the rows of that kind. -/
theorem catalogReply_of_rows
    (catalog : Text.occursIn "FROM spatial_ref_sys WHERE".toList query.toList = true)
    (kind : rows ∈ [memory.rowsBySrid query, memory.rowsByCode query, memory.rowsByLabel query])
    (only : ∀ others ∈ [memory.rowsBySrid query, memory.rowsByCode query,
      memory.rowsByLabel query], others = rows ∨ others = []) :
    memory.catalogReply query = .ok rows := by
  unfold catalogReply
  dsimp only
  generalize [memory.rowsBySrid query, memory.rowsByCode query, memory.rowsByLabel query] =
    candidates at kind only ⊢
  cases found : candidates.find? fun rows => !rows.isEmpty with
  | none =>
    have empty := List.find?_eq_none.mp found rows kind
    have no_rows : rows = [] := by simpa using empty
    rw [no_rows, if_pos catalog]
  | some others =>
    have some_rows : others ≠ [] := by simpa using List.find?_some found
    rw [(only others (List.mem_of_find?_eq_some found)).resolve_right some_rows]

end Memory

/-- A database that answers from catalog entries alone. -/
def catalogServer (entries : List ReferenceEntry) : Server :=
  (Memory.mk entries []).server

variable (entries : List ReferenceEntry) (earlier : List String)

theorem reply_queryBySrid (srid : Int32) :
    (catalogServer entries).reply earlier (SpatialReference.queryBySrid srid) =
      .ok ((entries.filter (·.hasSrid srid)).map ReferenceEntry.sridRow) := by
  have by_code := @Memory.rowsByCode_of_ne (.mk entries []) (SpatialReference.queryBySrid srid)
    fun authority code => (SpatialReference.queryByCode_ne_queryBySrid authority code srid).symm
  have by_label := @Memory.rowsByLabel_of_ne (.mk entries []) (SpatialReference.queryBySrid srid)
    fun other => SpatialReference.queryBySrid_ne_queryLabel srid other
  rw [← Memory.rowsBySrid_queryBySrid (.mk entries [])]
  apply Memory.catalogReply_of_rows (SpatialReference.occursIn_queryBySrid srid)
  · exact List.mem_cons_self
  · simp [by_code, by_label]

theorem reply_queryLabel (srid : Int32) :
    (catalogServer entries).reply earlier (SpatialReference.queryLabel srid) =
      .ok ((entries.filter (·.hasSrid srid)).map ReferenceEntry.labelRow) := by
  have by_code := @Memory.rowsByCode_of_ne (.mk entries []) (SpatialReference.queryLabel srid)
    fun authority code => (SpatialReference.queryByCode_ne_queryLabel authority code srid).symm
  have by_srid := @Memory.rowsBySrid_of_ne (.mk entries []) (SpatialReference.queryLabel srid)
    fun other => (SpatialReference.queryBySrid_ne_queryLabel other srid).symm
  rw [← Memory.rowsByLabel_queryLabel (.mk entries [])]
  apply Memory.catalogReply_of_rows (SpatialReference.occursIn_queryLabel srid)
  · simp
  · simp [by_code, by_srid]

variable {entries}

theorem reply_queryByCode (plain : ∀ entry ∈ entries, '\x27' ∉ entry.authority.toList)
    (authority : String) (code : Int32) :
    (catalogServer entries).reply earlier (SpatialReference.queryByCode authority code) =
      .ok ((entries.filter (·.hasCode authority code)).map ReferenceEntry.codeRow) := by
  have by_srid := @Memory.rowsBySrid_of_ne (.mk entries [])
    (SpatialReference.queryByCode authority code)
    (SpatialReference.queryByCode_ne_queryBySrid authority code)
  have by_label := @Memory.rowsByLabel_of_ne (.mk entries [])
    (SpatialReference.queryByCode authority code)
    (SpatialReference.queryByCode_ne_queryLabel authority code)
  rw [← @Memory.rowsByCode_queryByCode (.mk entries []) plain]
  apply Memory.catalogReply_of_rows (SpatialReference.occursIn_queryByCode authority code)
  · simp
  · simp [by_srid, by_label]

end Database

/-! ## Lookups -/

namespace SpatialReference

variable {entries : List ReferenceEntry} (earlier : List String)

/-- The reference of the only entry. -/
def onlyReference (missing : ReferenceError) :
    List ReferenceEntry → Except ReferenceError SpatialReference
  | [entry] => .ok entry.reference
  | _ => .error missing

theorem onlyReference_eq_ok_iff {missing : ReferenceError} {found : List ReferenceEntry}
    {reference : SpatialReference} :
    onlyReference missing found = .ok reference ↔
      ∃ entry, found = [entry] ∧ entry.reference = reference := by
  unfold onlyReference
  split
  next entry => simp
  next others =>
    constructor
    · intro found_reference
      cases found_reference
    · intro single
      obtain ⟨entry, found_eq, -⟩ := single
      exact absurd found_eq (others entry)

theorem onlyReference_of_length_ne_one {missing : ReferenceError} {found : List ReferenceEntry}
    (other : found.length ≠ 1) : onlyReference missing found = .error missing := by
  match found with
  | [] => rfl
  | [entry] => exact absurd rfl other
  | _ :: _ :: _ => rfl

/-- Where the answer has one row for each entry that was found, taking the only row gives the
reference of the only entry. -/
theorem takeRow_of_rows {server : Server} {query : String} {missing : ReferenceError}
    {read : Row → Except QueryError SpatialReference} {found : List ReferenceEntry}
    {rowOf : ReferenceEntry → Row} (answered : server.reply earlier query = .ok (found.map rowOf))
    (read_row : ∀ entry ∈ found, read (rowOf entry) = .ok entry.reference) :
    (takeRow query missing read).result server earlier = onlyReference missing found := by
  unfold takeRow
  rw [Lookup.result_bind, Lookup.result_query, answered]
  match found with
  | [] => rfl
  | [entry] =>
    have taken := read_row entry (by simp)
    change (readCells (read (rowOf entry))).result _ _ = _
    rw [readCells, Lookup.result_liftExcept, taken]
    rfl
  | _ :: _ :: _ => rfl

/-- A srid resolves to the reference of the only entry that has it. -/
theorem resolveSrid_ofEntries {srid : Int32} (given : srid ≠ unsetSrid) :
    (resolveSrid srid).result (catalogServer entries) earlier =
      onlyReference (.missingSrid srid) (entries.filter (·.hasSrid srid)) := by
  rw [resolveSrid_eq_takeRow given]
  apply takeRow_of_rows earlier (reply_queryBySrid entries earlier srid)
  intro entry member
  exact entry.ofCells_sridRow (ReferenceEntry.hasSrid_iff.mp (List.mem_filter.mp member).2)

/-- An authority and a code resolve to the reference of the only entry that has both. -/
theorem resolveCode_ofEntries (plain : ∀ entry ∈ entries, '\x27' ∉ entry.authority.toList)
    (authority : String) (code : Int32) :
    (resolveCode authority code).result (catalogServer entries) earlier =
      onlyReference (.missingCode authority code) (entries.filter (·.hasCode authority code)) := by
  rw [resolveCode_eq_takeRow]
  apply takeRow_of_rows earlier (reply_queryByCode earlier plain authority code)
  intro entry member
  exact entry.ofCodeRow_codeRow (ReferenceEntry.hasCode_iff.mp (List.mem_filter.mp member).2)

def onlyLabel? : List ReferenceEntry → Option String
  | [entry] => some entry.label
  | _ => none

theorem onlyLabel_eq_some_iff {found : List ReferenceEntry} {label : String} :
    onlyLabel? found = some label ↔ ∃ entry, found = [entry] ∧ entry.label = label := by
  match found with
  | [] => simp [onlyLabel?]
  | [entry] => simp [onlyLabel?]
  | _ :: _ :: _ => simp [onlyLabel?]

/-- The label of a srid is that of the only entry that has it. -/
theorem label_ofEntries (srid : Int32) :
    (label? srid).result (catalogServer entries) earlier =
      .ok (onlyLabel? (entries.filter (·.hasSrid srid))) := by
  unfold label?
  rw [Lookup.result_bind, Lookup.result_query, reply_queryLabel entries earlier srid]
  generalize entries.filter (·.hasSrid srid) = found
  match found with
  | [] => rfl
  | [entry] => rfl
  | _ :: _ :: _ => rfl

end SpatialReference

end SpatialFilter
