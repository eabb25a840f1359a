import Mathlib.Data.List.Nodup
import SpatialFilter.Proofs.CatalogEntries

/-!
# Lookups by srid and by code are inverse

In a catalog whose srids are distinct, what a lookup by authority and code finds is found again
under its srid, and what a lookup by srid finds is found again under its authority and code, if no
other entry has both.  The authority that is looked up may be any text, with quotes or without.
-/

namespace SpatialFilter

open SpatialFilter.Database

namespace Database

/-- No two entries have one srid, none has that of the unset reference, and the authorities are
free of quotes. -/
structure IsKeyedBySrid (entries : List ReferenceEntry) : Prop where
  distinct : (entries.map (·.srid)).Nodup
  given : ∀ entry ∈ entries, entry.srid ≠ unsetSrid
  plain : ∀ entry ∈ entries, '\x27' ∉ entry.authority.toList

namespace ReferenceEntry

theorem filter_hasSrid_eq_nil {entries : List ReferenceEntry} {srid : Int32}
    (absent : srid ∉ entries.map (·.srid)) : entries.filter (·.hasSrid srid) = [] := by
  rw [List.filter_eq_nil_iff]
  intro entry member found
  exact absent (List.mem_map.mpr ⟨entry, member, hasSrid_iff.mp found⟩)

/-- Where srids are distinct, the entry with a srid is the only one. -/
theorem filter_hasSrid_eq_singleton {entries : List ReferenceEntry} {entry : ReferenceEntry}
    (distinct : (entries.map (·.srid)).Nodup) (member : entry ∈ entries) :
    entries.filter (·.hasSrid entry.srid) = [entry] := by
  induction entries with
  | nil => cases member
  | cons first rest ih =>
    rw [List.map_cons, List.nodup_cons] at distinct
    cases member with
    | head =>
      rw [List.filter_cons_of_pos (hasSrid_iff.mpr rfl), filter_hasSrid_eq_nil distinct.1]
    | tail _ later =>
      have other : ¬ first.hasSrid entry.srid = true := by
        intro same
        apply distinct.1
        rw [hasSrid_iff.mp same]
        exact List.mem_map.mpr ⟨entry, later, rfl⟩
      rw [List.filter_cons_of_neg other, ih distinct.2 later]

end ReferenceEntry

end Database

namespace SpatialReference

variable {entries : List ReferenceEntry} {earlier : List String} {reference : SpatialReference}

/-- Every entry is found under its srid. -/
theorem resolveSrid_of_entry (keyed : IsKeyedBySrid entries) {entry : ReferenceEntry}
    (member : entry ∈ entries) (earlier : List String) :
    (resolveSrid entry.srid).result (catalogServer entries) earlier = .ok entry.reference := by
  rw [resolveSrid_ofEntries earlier (keyed.given entry member),
    ReferenceEntry.filter_hasSrid_eq_singleton keyed.distinct member]
  rfl

theorem resolveSrid_of_resolveCode (keyed : IsKeyedBySrid entries) {authority : String}
    {code : Int32}
    (found : (resolveCode authority code).result (catalogServer entries) earlier = .ok reference)
    (later : List String) :
    (resolveSrid reference.srid).result (catalogServer entries) later = .ok reference := by
  rw [resolveCode_ofEntries earlier keyed.plain, onlyReference_eq_ok_iff] at found
  obtain ⟨entry, only, rfl⟩ := found
  have member : entry ∈ entries.filter (·.hasCode authority code) := by simp [only]
  exact resolveSrid_of_entry keyed (List.mem_of_mem_filter member) later

/-- A reference that is found under a srid and is not the unset one is that of an entry. -/
theorem exists_entry_of_resolveSrid {srid : Int32}
    (found : (resolveSrid srid).result (catalogServer entries) earlier = .ok reference)
    (resolved : reference.isUnset = false) : ∃ entry ∈ entries, entry.reference = reference := by
  by_cases unset_srid : srid = unsetSrid
  · subst unset_srid
    cases found
    cases resolved
  · rw [resolveSrid_ofEntries earlier unset_srid, onlyReference_eq_ok_iff] at found
    obtain ⟨entry, only, same⟩ := found
    have member : entry ∈ entries.filter (·.hasSrid srid) := by simp [only]
    exact ⟨entry, List.mem_of_mem_filter member, same⟩

theorem resolveCode_of_resolveSrid (keyed : IsKeyedBySrid entries) {srid : Int32}
    (found : (resolveSrid srid).result (catalogServer entries) earlier = .ok reference)
    (resolved : reference.isUnset = false)
    (single : entries.countP (·.hasCode reference.authority reference.code) = 1)
    (later : List String) :
    (resolveCode reference.authority reference.code).result (catalogServer entries) later =
      .ok reference := by
  obtain ⟨entry, member, rfl⟩ := exists_entry_of_resolveSrid found resolved
  rw [List.countP_eq_length_filter, List.length_eq_one_iff] at single
  obtain ⟨only, only_eq⟩ := single
  have same : entry ∈ entries.filter
      (·.hasCode entry.reference.authority entry.reference.code) :=
    List.mem_filter.mpr ⟨member, ReferenceEntry.hasCode_iff.mpr ⟨rfl, rfl⟩⟩
  rw [only_eq, List.mem_singleton] at same
  rw [resolveCode_ofEntries later keyed.plain, only_eq, same]
  rfl

/-- Lookups by code and by srid are inverse, whatever was asked before each of them, and every entry
is found under its srid. -/
theorem lookups_are_inverse {entries : List ReferenceEntry} (keyed : IsKeyedBySrid entries)
    (earlier later : List String) :
    (∀ entry ∈ entries,
      (resolveSrid entry.srid).result (catalogServer entries) earlier = .ok entry.reference) ∧
      (∀ authority code reference,
        (resolveCode authority code).result (catalogServer entries) earlier = .ok reference →
          (resolveSrid reference.srid).result (catalogServer entries) later = .ok reference) ∧
      ∀ srid reference,
        (resolveSrid srid).result (catalogServer entries) earlier = .ok reference →
        reference.isUnset = false →
        entries.countP (·.hasCode reference.authority reference.code) = 1 →
        (resolveCode reference.authority reference.code).result (catalogServer entries) later =
          .ok reference := by
  refine ⟨?_, ?_, ?_⟩
  · intro entry member
    exact resolveSrid_of_entry keyed member earlier
  · intro authority code reference found
    exact resolveSrid_of_resolveCode keyed found later
  · intro srid reference found resolved single
    exact resolveCode_of_resolveSrid keyed found resolved single later

/-- Two entries for geographic coordinates, and a projection with a srid that is not its code. -/
def renumberedEntries : List ReferenceEntry :=
  [⟨4326, "EPSG", 4326, some "+proj=longlat +datum=WGS84"⟩,
    ⟨900913, "EPSG", 3857, some "+proj=merc +units=m"⟩, ⟨104, "EPSG", 4326, none⟩]

/-- The projection is found both ways, under its code and under its srid. -/
theorem renumbered_projection_is_found :
    (resolveSrid 900913).result (catalogServer renumberedEntries) [] =
        .ok ⟨900913, "EPSG", 3857, false⟩ ∧
      (resolveCode "EPSG" 3857).result (catalogServer renumberedEntries) [] =
        .ok ⟨900913, "EPSG", 3857, false⟩ := by
  have keyed : IsKeyedBySrid renumberedEntries :=
    ⟨by decide +kernel, by decide +kernel, by decide +kernel⟩
  obtain ⟨-, by_srid, by_code⟩ := lookups_are_inverse keyed [] []
  have found : (resolveSrid 900913).result (catalogServer renumberedEntries) [] =
      .ok ⟨900913, "EPSG", 3857, false⟩ :=
    eq_ok_of_toOption (by decide +kernel)
  have coded := by_code 900913 _ found (by decide) (by decide +kernel)
  exact ⟨by_srid "EPSG" 3857 _ coded, coded⟩

end SpatialReference

end SpatialFilter
