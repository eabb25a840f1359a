import SpatialFilter.Database.Memory
import SpatialFilter.Proofs.ConfiguredLayers
import SpatialFilter.Proofs.ExtentInvariant

/-!
# The srid of the unset reference

A reference is taken for the unset one by its srid alone.  That is right for every reference that is
looked up by its srid or by its name, since the unset srid is never looked for in the database, and
for every reference that an extent comes to have.  A lookup by authority and code takes the srid out
of the row, whatever it is.  There it is right exactly when the database keeps the unset srid for
the unset reference (`unset_srid_means_unset`).
-/

namespace SpatialFilter

open SpatialFilter.Number
open SpatialFilter.Database

variable {server : Server} {earlier : List String} {reference : SpatialReference}

/-- Only the unset reference has the unset srid. -/
def SpatialReference.IsRegular (reference : SpatialReference) : Prop :=
  reference.isUnset = true → reference = unset

/-- Whatever reference the lookup gives, it is regular. -/
def ReferenceLookup.GivesRegular (lookup : ReferenceLookup SpatialReference) (server : Server)
    (earlier : List String) : Prop :=
  ∀ reference, Lookup.result lookup server earlier = .ok reference → reference.IsRegular

namespace SpatialReference

theorem isUnset_iff : reference.isUnset = true ↔ reference.srid = unsetSrid := by
  simp [isUnset]

theorem isRegular_of_srid (given : reference.srid ≠ unsetSrid) : reference.IsRegular :=
  fun taken => absurd (isUnset_iff.mp taken) given

theorem unset_isRegular : unset.IsRegular := fun _ => rfl

/-- A regular reference with an authority is not taken for the unset one. -/
theorem IsRegular.isUnset_eq_false (regular : reference.IsRegular)
    (authority : reference.authority ≠ "") : reference.isUnset = false := by
  rw [← Bool.not_eq_true]
  intro taken
  rw [regular taken] at authority
  exact authority rfl

/-! ## Lookups -/

/-- A lookup of the unset srid asks nothing, and any other srid is the one of its reference. -/
theorem resolveSrid_isRegular {srid : Int32}
    (resolved : (resolveSrid srid).result server earlier = .ok reference) :
    reference.IsRegular := by
  by_cases unset_srid : srid = unsetSrid
  · rw [resolveSrid, if_pos unset_srid] at resolved
    cases resolved
    exact unset_isRegular
  · rw [← resolveSrid_srid resolved] at unset_srid
    exact isRegular_of_srid unset_srid

theorem IsResolved.isRegular (resolved : reference.IsResolved server) : reference.IsRegular := by
  obtain ⟨srid, earlier, resolved⟩ := resolved
  exact resolveSrid_isRegular resolved

theorem resolveName_isRegular {name : String}
    (resolved : (resolveName name).result server earlier = .ok reference) :
    reference.IsRegular := by
  unfold resolveName at resolved
  split at resolved
  · exact resolveSrid_isRegular resolved
  · cases resolved

/-- The one row with which the database answers a lookup by authority and code: its srid, and the
definition that says whether coordinates are metric. -/
def HasEntry (server : Server) (earlier : List String) (authority : String) (code srid : Int32)
    (definition : Option String) : Prop :=
  ∃ row, server.reply earlier (queryByCode authority code) = .ok [row] ∧
    row.int 0 = .ok srid ∧ row.optionalText 1 = .ok definition

/-- A lookup by authority and code takes both as they are asked for, and the rest from the row. -/
theorem resolveCode_eq_ok_iff {authority : String} {code : Int32} :
    (resolveCode authority code).result server earlier = .ok reference ↔
      ∃ srid definition, HasEntry server earlier authority code srid definition ∧
        reference = ⟨srid, authority, code, !isMetricDefinition definition⟩ := by
  unfold resolveCode
  rw [Lookup.result_bind_eq_ok]
  constructor
  · rintro ⟨rows, answered, resolved⟩
    rw [Lookup.result_query, mapError_eq_ok] at answered
    split at resolved
    next row =>
      rw [readCells, Lookup.result_liftExcept, mapError_eq_ok] at resolved
      obtain ⟨srid, srid_eq, resolved⟩ := bind_eq_ok.mp resolved
      obtain ⟨definition, definition_eq, resolved⟩ := bind_eq_ok.mp resolved
      cases resolved
      exact ⟨srid, definition, ⟨row, answered, srid_eq, definition_eq⟩, rfl⟩
    · cases resolved
  · rintro ⟨srid, definition, ⟨row, answered, srid_eq, definition_eq⟩, rfl⟩
    refine ⟨[row], ?_, ?_⟩
    · rw [Lookup.result_query, mapError_eq_ok]
      exact answered
    · dsimp only
      rw [readCells, Lookup.result_liftExcept, mapError_eq_ok]
      exact bind_eq_ok.mpr ⟨srid, srid_eq, bind_eq_ok.mpr ⟨definition, definition_eq, rfl⟩⟩

/-- The database has no entry with the unset srid for the authority and the code, unless it is one
of the unset reference itself. -/
def KeepsUnsetSrid (server : Server) (earlier : List String) (authority : String) (code : Int32) :
    Prop :=
  ∀ definition, HasEntry server earlier authority code unsetSrid definition →
    authority = "" ∧ code = 0 ∧ isMetricDefinition definition = false

/-- Lookups by code give regular references exactly when the database keeps the unset srid. -/
theorem resolveCode_givesRegular_iff {authority : String} {code : Int32} :
    (resolveCode authority code).GivesRegular server earlier ↔
      KeepsUnsetSrid server earlier authority code := by
  constructor
  · intro regular definition entry
    have resolved := resolveCode_eq_ok_iff.mpr ⟨unsetSrid, definition, entry, rfl⟩
    have same := regular _ resolved rfl
    simpa [unset] using same
  · rintro kept reference resolved taken
    obtain ⟨srid, definition, entry, rfl⟩ := resolveCode_eq_ok_iff.mp resolved
    obtain rfl : srid = unsetSrid := isUnset_iff.mp taken
    obtain ⟨rfl, rfl, angular⟩ := kept definition entry
    simp [unset, angular]

end SpatialReference

/-! ## Extents -/

namespace Extent

variable {extent : Extent}

/-- The row of a reprojection is not asked for the srid of the target, so it is the check of the
target that keeps the unset srid out. -/
theorem reproject_isRegular (target : Int32) :
    (reproject target).Ensures server earlier extent fun next => next.reference.IsRegular := by
  by_cases unset : target = unsetSrid
  · unfold reproject
    apply Revision.ensures_get
    rw [if_pos (by simp [unset])]
    exact Revision.ensures_throw _
  · apply (reproject_ensures target).imp
    intro next reprojected
    rw [← reprojected.srid_eq] at unset
    exact SpatialReference.isRegular_of_srid unset

/-- A command that succeeds leaves a reference that was resolved from a srid, unless it is a
reprojection. -/
theorem action_isRegular (catalog : LayerCatalog) (command : Command) :
    (command.action catalog).Ensures server earlier extent fun next =>
      next.reference.IsRegular := by
  have ensured : (command.action catalog).Ensures server earlier extent
      (command.Leaves catalog server earlier extent) := action_ensures catalog command
  cases command with
  | set xmin ymin xmax ymax srid =>
    apply ensured.imp
    intro next stored
    exact SpatialReference.resolveSrid_isRegular stored.resolved
  | setText text srid =>
    apply ensured.imp
    intro next left
    obtain ⟨coordinates, -, stored⟩ := left
    exact SpatialReference.resolveSrid_isRegular stored.resolved
  | setGeographic geographic =>
    apply ensured.imp
    intro next stored
    exact SpatialReference.resolveSrid_isRegular stored.resolved
  | aggregate layers filters =>
    apply ensured.imp
    intro next left
    have aggregated := @aggregate_result catalog server earlier extent layers filters next left
    exact aggregated.2.isRegular
  | reproject target => exact Revision.ensures_adapt (reproject_isRegular target)
  | reset =>
    apply ensured.imp
    intro next left
    rw [left]
    exact SpatialReference.unset_isRegular

/-- The reference of an extent stays regular, whatever the commands and the answers. -/
theorem afterAll_reference_isRegular (catalog : LayerCatalog)
    (regular : extent.reference.IsRegular) (commands : List Command) :
    ((afterAll catalog extent commands).run server earlier).1.reference.IsRegular :=
  afterAll_preserves (fun extent => extent.reference.IsRegular)
    (fun _ _ command => action_isRegular catalog command) regular commands

/-- Between two references that are given, a bounded extent is not refused for want of one. -/
theorem reproject_of_given {target : Int32} (bounded : extent.isUnbounded = false)
    (given : extent.reference.isUnset = false) (apart : target ≠ unsetSrid) (text : String) :
    (((reproject target).run.run extent).run server earlier).1.1 ≠
      .error (.unreferenced text) := by
  have accepted : ¬ (extent.isUnbounded || extent.reference.isUnset || target == unsetSrid) := by
    simp [bounded, given, apart]
  unfold reproject
  rw [Revision.run_get_bind, if_neg accepted, Revision.ofExcept, Revision.run_ofLookup_bind_fst,
    Lookup.result_liftExcept]
  cases extent.reprojectionQuery target with
  | error error => exact nofun
  | ok query =>
    dsimp only [Except.mapError]
    rw [Revision.run_ofLookup_bind_fst, Lookup.result_query]
    cases server.reply _ query with
    | error error => exact nofun
    | ok rows =>
      dsimp only [Except.mapError]
      split
      next row =>
        rw [Revision.ofExcept, Revision.run_ofLookup_bind_fst, Lookup.result_liftExcept]
        cases ofReprojectionRow target row with
        | error error => exact nofun
        | ok next => exact nofun
      · exact nofun

end Extent

/-! ## References with an authority -/

/-- The reference is taken for one wherever unset references are treated on their own: in its name,
as the reference that a request asks for, and as that of an extent to be reprojected. -/
structure SpatialReference.IsTakenAsGiven (reference : SpatialReference) : Prop where
  named : reference.name? = some (reference.authority ++ ":" ++ int32Text reference.code)
  requested : ∀ context : Context,
    (context.withRequested reference).requested = some reference
  reprojected : ∀ (server : Server) (earlier : List String) (extent : Extent) (target : Int32)
    (text : String), extent.reference = reference → extent.isUnbounded = false →
      target ≠ unsetSrid →
        (((Extent.reproject target).run.run extent).run server earlier).1.1 ≠
          .error (.unreferenced text)

theorem isTakenAsGiven_of_isUnset (given : reference.isUnset = false) :
    reference.IsTakenAsGiven where
  named := by simp [SpatialReference.name?, given]
  requested := by
    intro context
    simp [Context.withRequested, given]
  reprojected := by
    rintro server earlier extent target text rfl bounded apart
    exact Extent.reproject_of_given bounded given apart text

/-- Nothing but the unset reference has the unset srid: neither a reference that is looked up by its
srid or name, nor that of an extent after any run of commands.  Of the references that are looked up
by authority and code this holds exactly when the database keeps the unset srid for the unset
reference.  Where it holds, a reference with an authority is never taken for the unset one. -/
theorem unset_srid_means_unset (catalog : LayerCatalog) (server : Server)
    (earlier : List String) :
    (∀ srid, (SpatialReference.resolveSrid srid).GivesRegular server earlier) ∧
      (∀ name, (SpatialReference.resolveName name).GivesRegular server earlier) ∧
      (∀ authority code,
        (SpatialReference.resolveCode authority code).GivesRegular server earlier ↔
          SpatialReference.KeepsUnsetSrid server earlier authority code) ∧
      (∀ commands, (Extent.reached catalog server commands).1.reference.IsRegular) ∧
      ∀ reference : SpatialReference, reference.IsRegular → reference.authority ≠ "" →
        reference.IsTakenAsGiven := by
  refine ⟨?_, ?_, ?_, ?_, ?_⟩
  · intro srid reference resolved
    exact SpatialReference.resolveSrid_isRegular resolved
  · intro name reference resolved
    exact SpatialReference.resolveName_isRegular resolved
  · intro authority code
    exact SpatialReference.resolveCode_givesRegular_iff
  · intro commands
    exact Extent.afterAll_reference_isRegular catalog SpatialReference.unset_isRegular commands
  · intro reference regular authority
    exact isTakenAsGiven_of_isUnset (regular.isUnset_eq_false authority)

/-! ## An entry under the unset srid -/

/-- A database whose only entry has the srid. -/
def entryServer (srid : Int32) : Server :=
  (Memory.mk [⟨srid, "EPSG", 7, none⟩] []).server

/-- An entry under another srid is found as it is, and keeps its name. -/
theorem entry_is_named :
    (SpatialReference.resolveCode "EPSG" 7).result (entryServer 7) [] =
        .ok ⟨7, "EPSG", 7, true⟩ ∧
      (⟨7, "EPSG", 7, true⟩ : SpatialReference).name? = some "EPSG:7" := by
  have found : (SpatialReference.resolveCode "EPSG" 7).result (entryServer 7) [] =
      .ok ⟨7, "EPSG", 7, true⟩ := eq_ok_of_toOption (by decide +kernel)
  have kept : SpatialReference.KeepsUnsetSrid (entryServer 7) [] "EPSG" 7 := by
    intro definition entry
    obtain ⟨row, answered, srid_eq, -⟩ := entry
    have reply : (entryServer 7).reply [] (SpatialReference.queryByCode "EPSG" 7) =
        .ok [⟨[some "7", none]⟩] := eq_ok_of_toOption (by decide +kernel)
    rw [reply] at answered
    cases answered
    exact absurd (congrArg Except.toOption srid_eq) (by decide +kernel)
  obtain ⟨-, -, by_code, -, taken⟩ := unset_srid_means_unset ⟨[], rfl⟩ (entryServer 7) []
  have regular := (by_code "EPSG" 7).mpr kept _ found
  exact ⟨found, (taken _ regular (by decide)).named⟩

/-- An entry under the unset srid is found with its authority and code, but it has no name, and a
request for it asks for nothing. -/
theorem entry_is_taken_for_unset :
    ∃ reference, (SpatialReference.resolveCode "EPSG" 7).result (entryServer unsetSrid) [] =
        .ok reference ∧
      reference.isUnset = true ∧ reference ≠ .unset ∧ reference.authority = "EPSG" ∧
        reference.name? = none ∧ (roadContext.withRequested reference).requested = none := by
  refine ⟨⟨unsetSrid, "EPSG", 7, true⟩, ?_, rfl, by decide, rfl, rfl, rfl⟩
  exact eq_ok_of_toOption (by decide +kernel)

end SpatialFilter
