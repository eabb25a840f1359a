import SpatialFilter.Reference.Lookup

/-!
# A database in memory

Answers from scripts and from a small catalog of references.  The first script whose needle
occurs in a query answers it.  Without one, the query is compared with the catalog queries of
every entry, and a catalog query that fits no entry has an empty answer.
-/

namespace SpatialFilter.Database

open SpatialFilter.Number

/-- One row of `spatial_ref_sys`. -/
structure ReferenceEntry where
  srid : Int32
  authority : String
  code : Int32
  definition : Option String
  deriving DecidableEq, Repr

/-- A fixed reply to every query in which the needle occurs. -/
structure Script where
  needle : String
  reply : Reply

/-- A database whose replies are fixed in advance. -/
structure Memory where
  entries : List ReferenceEntry
  scripts : List Script

namespace Memory

/-- Three entries to start from: geographic coordinates, the web map projection and one
national grid. -/
def standardEntries : List ReferenceEntry :=
  [⟨4326, "EPSG", 4326, some "+proj=longlat +datum=WGS84 +no_defs "⟩,
    ⟨3857, "EPSG", 3857,
      some "+proj=merc +a=6378137 +b=6378137 +units=m +nadgrids=@null +no_defs "⟩,
    ⟨2154, "EPSG", 2154,
      some "+proj=lcc +lat_1=49 +lat_2=44 +ellps=GRS80 +units=m +no_defs "⟩]

/-- The answers of the entries whose query by srid this is. -/
def rowsBySrid (memory : Memory) (query : String) : List Row :=
  (memory.entries.filter fun entry => query == SpatialReference.queryBySrid entry.srid).map
    fun entry =>
      ⟨[some entry.authority, some (int32Text entry.code), entry.definition]⟩

def rowsByCode (memory : Memory) (query : String) : List Row :=
  (memory.entries.filter fun entry =>
      query == SpatialReference.queryByCode entry.authority entry.code).map
    fun entry => ⟨[some (int32Text entry.srid), entry.definition]⟩

def rowsByLabel (memory : Memory) (query : String) : List Row :=
  (memory.entries.filter fun entry => query == SpatialReference.queryLabel entry.srid).map
    fun entry => ⟨[some (entry.authority ++ ":" ++ int32Text entry.code)]⟩

def catalogReply (memory : Memory) (query : String) : Reply :=
  let candidates := [memory.rowsBySrid query, memory.rowsByCode query, memory.rowsByLabel query]
  match candidates.find? fun rows => !rows.isEmpty with
  | some rows => .ok rows
  | none =>
    if Text.occursIn "FROM spatial_ref_sys WHERE".toList query.toList then .ok []
    else .error (.failed s!"no scripted response for `{query}`")

/-- The reply to a query: that of the first script that fits, or else of the catalog. -/
def reply (memory : Memory) (query : String) : Reply :=
  match memory.scripts.find? fun script =>
    Text.occursIn script.needle.toList query.toList with
  | some script => script.reply
  | none => memory.catalogReply query

/-- The memory as a database; earlier queries make no difference to it. -/
def server (memory : Memory) : Server :=
  ⟨fun _ query => memory.reply query⟩

end Memory

end SpatialFilter.Database
