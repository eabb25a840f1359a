import SpatialFilter.Proofs.CatalogEntries
import SpatialFilter.Proofs.SridNames

/-!
# Labels, names and references agree

Whatever entries a catalog has, a srid is resolved exactly if one entry has it, and the label of the
srid is then the name of that reference; without such an entry, or with several, the reference is
missing and there is no label.  A name in one of the supported encodings stands for its srid.
-/

namespace SpatialFilter

open SpatialFilter.Number
open SpatialFilter.Database

namespace SpatialReference

variable {entries : List ReferenceEntry} {srid : Int32}

theorem resolveSrid_eq_ok_iff (given : srid ≠ unsetSrid) (earlier : List String)
    (reference : SpatialReference) :
    (resolveSrid srid).result (catalogServer entries) earlier = .ok reference ↔
      ∃ entry, entries.filter (·.hasSrid srid) = [entry] ∧ entry.reference = reference := by
  rw [resolveSrid_ofEntries earlier given, onlyReference_eq_ok_iff]

/-- The name of an entry's reference is its label. -/
theorem name_reference {entry : ReferenceEntry} (given : entry.srid ≠ unsetSrid) :
    entry.reference.name? = some entry.label := by
  have resolved : ¬ entry.reference.isUnset = true := by
    simpa [isUnset, ReferenceEntry.reference] using given
  rw [name?, if_neg resolved]
  rfl

/-- A srid has a label exactly when it resolves, and the label is the name of its reference. -/
theorem label_eq_some_iff (given : srid ≠ unsetSrid) (earlier later : List String)
    (label : String) :
    (label? srid).result (catalogServer entries) later = .ok (some label) ↔
      ∃ reference, (resolveSrid srid).result (catalogServer entries) earlier = .ok reference ∧
        reference.name? = some label := by
  have named : ∀ {entry}, entries.filter (·.hasSrid srid) = [entry] →
      entry.reference.name? = some entry.label := by
    intro entry only
    rw [← ReferenceEntry.srid_of_filter_hasSrid only] at given
    exact name_reference given
  rw [label_ofEntries, Except.ok.injEq, onlyLabel_eq_some_iff]
  simp only [resolveSrid_eq_ok_iff given]
  constructor
  · intro labelled
    obtain ⟨entry, only, label_eq⟩ := labelled
    exact ⟨entry.reference, ⟨entry, only, rfl⟩, by rw [named only, label_eq]⟩
  · intro resolved
    obtain ⟨reference, ⟨entry, only, rfl⟩, name_eq⟩ := resolved
    rw [named only] at name_eq
    exact ⟨entry, only, Option.some.inj name_eq⟩

theorem label_eq_none_iff (given : srid ≠ unsetSrid) (earlier later : List String) :
    (label? srid).result (catalogServer entries) later = .ok none ↔
      ¬ ∃ reference label,
        (resolveSrid srid).result (catalogServer entries) earlier = .ok reference ∧
          reference.name? = some label := by
  rw [exists_comm]
  simp only [← label_eq_some_iff given earlier later]
  rw [label_ofEntries]
  cases onlyLabel? (entries.filter (·.hasSrid srid)) <;> simp

/-- References, labels and names tell the same of every srid but the unset one, whatever entries the
catalog has and whatever was asked before. -/
theorem labels_agree_with_references {srid : Int32} (given : srid ≠ unsetSrid)
    (entries : List ReferenceEntry) (earlier later : List String) :
    (∀ reference, (resolveSrid srid).result (catalogServer entries) earlier = .ok reference ↔
        ∃ entry, entries.filter (·.srid == srid) = [entry] ∧
          reference =
            ⟨srid, entry.authority, entry.code, !isMetricDefinition entry.definition⟩) ∧
      ((entries.filter (·.srid == srid)).length ≠ 1 →
        (resolveSrid srid).result (catalogServer entries) earlier =
          .error (.missingSrid srid)) ∧
      (∀ label, (label? srid).result (catalogServer entries) later = .ok (some label) ↔
        ∃ reference, (resolveSrid srid).result (catalogServer entries) earlier = .ok reference ∧
          reference.name? = some label) ∧
      ((label? srid).result (catalogServer entries) later = .ok none ↔
        ¬ ∃ reference label,
          (resolveSrid srid).result (catalogServer entries) earlier = .ok reference ∧
            reference.name? = some label) ∧
      ∀ encoding ∈ nameEncodings, ∀ name, encoding.Names srid name →
        resolveName name = resolveSrid srid := by
  refine ⟨?_, ?_, label_eq_some_iff given earlier later, label_eq_none_iff given earlier later,
    ?_⟩
  · intro reference
    rw [resolveSrid_eq_ok_iff given]
    apply exists_congr
    intro entry
    apply and_congr_right
    intro only
    rw [ReferenceEntry.reference, ReferenceEntry.srid_of_filter_hasSrid only, eq_comm]
  · intro other
    rw [resolveSrid_ofEntries earlier given]
    exact onlyReference_of_length_ne_one other
  · intro encoding known name names
    exact resolveName_of_srid (sridOfName_eq_some_iff.mpr ⟨encoding, known, names⟩)

/-- A catalog with a national grid and with a doubled entry for geographic coordinates. -/
def doubledEntries : List ReferenceEntry :=
  [⟨4326, "EPSG", 4326, none⟩, ⟨27700, "EPSG", 27700, some "+proj=tmerc +units=m"⟩,
    ⟨4326, "CRS", 84, none⟩]

/-- The grid is found under a name with a version and a sign, and the doubled srid has no label. -/
theorem doubled_srid_has_no_label :
    (resolveName "urn:ogc:def:crs:EPSG:6.3: +27700").result (catalogServer doubledEntries) [] =
        .ok ⟨27700, "EPSG", 27700, false⟩ ∧
      (label? 27700).result (catalogServer doubledEntries) [] = .ok (some "EPSG:27700") ∧
      (label? 4326).result (catalogServer doubledEntries) [] = .ok none := by
  obtain ⟨grid_iff, -, grid_label, -, grid_names⟩ :=
    @labels_agree_with_references 27700 (by decide) doubledEntries [] []
  obtain ⟨-, missing, -, no_label, -⟩ :=
    @labels_agree_with_references 4326 (by decide) doubledEntries [] []
  have grid : (resolveSrid 27700).result (catalogServer doubledEntries) [] =
      .ok ⟨27700, "EPSG", 27700, false⟩ :=
    (grid_iff _).mpr ⟨⟨27700, "EPSG", 27700, some "+proj=tmerc +units=m"⟩, rfl, by decide +kernel⟩
  have blank : Text.AllBlank [' '] := by simp [Text.AllBlank, Text.isBlank, Text.blankRanges]
  have numeral : WritesInt (27700 : Int32).toInt "+27700".toList :=
    readInt32_eq_some_iff.mp (by decide +kernel)
  have named := grid_names ⟨"urn:ogc:def:crs:EPSG:", ':'⟩ (by decide)
    "urn:ogc:def:crs:EPSG:6.3: +27700"
    ⟨"6.3:".toList, [' '], "+27700".toList, [], by decide +kernel, .inr ⟨"6.3".toList, rfl⟩,
      by decide +kernel, blank, numeral, List.forall_mem_nil _⟩
  refine ⟨by rw [named]; exact grid, ?_, ?_⟩
  · exact (grid_label _).mpr ⟨_, grid, by decide +kernel⟩
  · apply no_label.mpr
    rintro ⟨reference, label, found, -⟩
    rw [missing (by decide)] at found
    cases found

end SpatialReference

end SpatialFilter
