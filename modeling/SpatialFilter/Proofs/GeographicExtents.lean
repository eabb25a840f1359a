import SpatialFilter.Database.Memory
import SpatialFilter.Proofs.AcceptedExtents

/-!
# Geographic extents

The sides of a geographic extent may come in either order, so that the smaller and the larger side
of each axis are taken before anything is checked.  Since NaN is passed over beside a number, it
does not always come to the check: an axis has storable ends exactly when its sides that are numbers
are storable and one of them is a number (`haveStorableEnds_iff`).  The extent is refused for every
side that cannot be stored, unless all that is wrong with it is a NaN beside a number
(`geographic_extent_is_put_in_order`).
-/

namespace SpatialFilter

open SpatialFilter.Number
open SpatialFilter.Number.Binary64
open SpatialFilter.Database

/-! ## Sides -/

/-- NaN, an infinity, or one of the extreme numbers. -/
def IsUnfit (side : Binary64) : Prop :=
  side = .nan ∨ side.isInfinite = true ∨ isExtreme side = true

theorem isUnfit_iff {side : Binary64} : IsUnfit side ↔ Extent.isStorable side = false := by
  unfold IsUnfit
  cases side with
  | nan => simp [Extent.isStorable, isFinite]
  | ranked negative rank rank_le =>
    have infinite : rank = infinityRank ↔ ¬ rank < infinityRank := by omega
    simp [Extent.isStorable, isFinite, isInfinite, infinite, Classical.or_iff_not_imp_left]

/-- A value is storable when its place is between those of the extreme numbers. -/
theorem isStorable_iff_between {value : Binary64} :
    Extent.isStorable value = true ↔
      (extreme true).lt value = true ∧ value.lt (extreme false) = true := by
  cases value with
  | nan => simp [Extent.isStorable, isFinite, lt, place?]
  | ranked negative rank rank_le =>
    have some_rank : 0 < infinityRank := by decide
    cases negative <;>
      simp [Extent.isStorable, isFinite, isExtreme, extreme, lt, place?] <;> omega

/-- Of two values, each one that is a number is storable, and one of them is a number. -/
structure HaveStorableEnds (x y : Binary64) : Prop where
  some_number : x ≠ .nan ∨ y ≠ .nan
  storable : ∀ value ∈ [x, y], value ≠ .nan → Extent.isStorable value = true

/-- The ends of two values are storable when whatever numbers are among the two are. -/
theorem haveStorableEnds_iff {low high x y : Binary64} (spans : Spans low high x y) :
    HaveStorableEnds x y ↔ Extent.isStorable low = true ∧ Extent.isStorable high = true := by
  constructor
  · rintro ⟨some_number, storable⟩
    obtain ⟨low_number, high_number⟩ := number_of_le (spans.low_le_high some_number)
    exact ⟨storable low (by simpa using spans.low_given) low_number,
      storable high (by simpa using spans.high_given) high_number⟩
  · rintro ⟨low_storable, high_storable⟩
    have low_number := number_of_isFinite (Extent.isStorable_iff.mp low_storable).1
    constructor
    · rcases spans.low_given with rfl | rfl
      · exact .inl low_number
      · exact .inr low_number
    · intro value member number
      have given : value = x ∨ value = y := by simpa using member
      -- A number lies between the ends, and these lie between the extreme numbers.
      exact isStorable_iff_between.mpr
        ⟨lt_of_lt_of_le (isStorable_iff_between.mp low_storable).1 (spans.low_le given number),
          lt_of_le_of_lt (spans.le_high given number) (isStorable_iff_between.mp high_storable).2⟩

namespace GeographicExtent

def sides (geographic : GeographicExtent) : List Binary64 :=
  [geographic.west, geographic.east, geographic.north, geographic.south]

/-- Both axes have storable ends. -/
structure IsStorable (geographic : GeographicExtent) : Prop where
  longitude : HaveStorableEnds geographic.west geographic.east
  latitude : HaveStorableEnds geographic.north geographic.south

/-- All that is wrong with the sides is NaN beside a number: some side is NaN, but not both of an
axis, and every side that is a number is storable. -/
structure MasksNan (geographic : GeographicExtent) : Prop where
  some_nan : .nan ∈ geographic.sides
  longitude : ¬ (geographic.west = .nan ∧ geographic.east = .nan)
  latitude : ¬ (geographic.north = .nan ∧ geographic.south = .nan)
  storable : ∀ side ∈ geographic.sides, side ≠ .nan → Extent.isStorable side = true

/-- The other extent has the same two sides on each axis, in either order. -/
structure HasSidesOf (other geographic : GeographicExtent) : Prop where
  longitude : (other.west = geographic.west ∧ other.east = geographic.east) ∨
    (other.west = geographic.east ∧ other.east = geographic.west)
  latitude : (other.north = geographic.north ∧ other.south = geographic.south) ∨
    (other.north = geographic.south ∧ other.south = geographic.north)

/-- No axis has zeros of both signs. -/
structure ZerosAgree (geographic : GeographicExtent) : Prop where
  longitude : geographic.west.place? = some 0 → geographic.east.place? = some 0 →
    geographic.west = geographic.east
  latitude : geographic.south.place? = some 0 → geographic.north.place? = some 0 →
    geographic.south = geographic.north

variable {geographic other : GeographicExtent}

theorem HasSidesOf.refl (geographic : GeographicExtent) : geographic.HasSidesOf geographic :=
  ⟨.inl ⟨rfl, rfl⟩, .inl ⟨rfl, rfl⟩⟩

/-- All sides but NaN have to be storable, and no axis may have NaN on both sides. -/
theorem isStorable_iff :
    geographic.IsStorable ↔
      (∀ side ∈ geographic.sides, side ≠ .nan → Extent.isStorable side = true) ∧
        ¬ (geographic.west = .nan ∧ geographic.east = .nan) ∧
        ¬ (geographic.north = .nan ∧ geographic.south = .nan) := by
  constructor
  · rintro ⟨⟨west_or_east, longitude⟩, ⟨north_or_south, latitude⟩⟩
    simp only [sides, List.forall_mem_cons] at longitude latitude ⊢
    exact ⟨⟨longitude.1, longitude.2.1, latitude⟩, by tauto, by tauto⟩
  · rintro ⟨storable, longitude, latitude⟩
    simp only [sides, List.forall_mem_cons] at storable
    obtain ⟨west, east, north, south, -⟩ := storable
    exact ⟨⟨by tauto, by simpa using ⟨west, east⟩⟩, ⟨by tauto, by simpa using ⟨north, south⟩⟩⟩

/-- NaN is masked in an extent that is storable all the same. -/
theorem masksNan_iff : geographic.MasksNan ↔ geographic.IsStorable ∧ .nan ∈ geographic.sides := by
  rw [isStorable_iff]
  constructor
  · rintro ⟨some_nan, longitude, latitude, storable⟩
    exact ⟨⟨storable, longitude, latitude⟩, some_nan⟩
  · rintro ⟨⟨storable, longitude, latitude⟩, some_nan⟩
    exact ⟨some_nan, longitude, latitude, storable⟩

theorem exists_unfit_of_not_isStorable (unstorable : ¬ geographic.IsStorable) :
    ∃ side ∈ geographic.sides, IsUnfit side := by
  by_contra all_fit
  have storable : ∀ side ∈ geographic.sides, Extent.isStorable side = true := by
    intro side member
    have fit : ¬ IsUnfit side := fun unfit => all_fit ⟨side, member, unfit⟩
    rwa [isUnfit_iff, Bool.not_eq_false] at fit
  have number : ∀ side ∈ geographic.sides, side ≠ .nan := fun side member =>
    number_of_isFinite (Extent.isStorable_iff.mp (storable side member)).1
  refine unstorable (isStorable_iff.mpr ⟨fun side member _ => storable side member, ?_, ?_⟩)
  · exact fun both => number geographic.west (by simp [sides]) both.1
  · exact fun both => number geographic.north (by simp [sides]) both.1

/-- In a storable extent only NaN is unfit. -/
theorem exists_unfit_iff_of_isStorable (storable : geographic.IsStorable) :
    (∃ side ∈ geographic.sides, IsUnfit side) ↔ .nan ∈ geographic.sides := by
  constructor
  · rintro ⟨side, member, unfit⟩
    by_contra no_nan
    have number : side ≠ .nan := by
      rintro rfl
      exact no_nan member
    have fit := (isStorable_iff.mp storable).1 side member number
    rw [isUnfit_iff.mp unfit] at fit
    cases fit
  · intro member
    exact ⟨.nan, member, .inl rfl⟩

/-- A side that cannot be stored makes the extent one that cannot be stored, but for NaN beside a
number. -/
theorem unfit_matters_iff :
    (¬ geographic.IsStorable ↔ ∃ side ∈ geographic.sides, IsUnfit side) ↔
      ¬ geographic.MasksNan := by
  rw [masksNan_iff]
  by_cases storable : geographic.IsStorable
  · simp [storable, exists_unfit_iff_of_isStorable storable]
  · simp [storable, exists_unfit_of_not_isStorable storable]

end GeographicExtent

/-! ## Calls -/

namespace Extent

open GeographicExtent

variable {server : Server} {earlier : List String} {extent : Extent}
variable {geographic other : GeographicExtent}

/-- The four coordinates are the smaller and the larger side of each axis. -/
structure AreEndsOf (xmin ymin xmax ymax : Binary64) (geographic : GeographicExtent) : Prop where
  longitude : Spans xmin xmax geographic.west geographic.east
  latitude : Spans ymin ymax geographic.south geographic.north

/-- The coordinates that are stored for a geographic extent are its ends, whichever order its sides
come in. -/
theorem areEndsOf_of_hasSidesOf (sides : other.HasSidesOf geographic) :
    AreEndsOf (other.west.smaller other.east) (other.north.smaller other.south)
      (other.west.larger other.east) (other.north.larger other.south) geographic := by
  constructor
  · have spans := spans_smaller_larger other.west other.east
    rcases sides.longitude with ⟨west, east⟩ | ⟨west, east⟩
    · rwa [west, east] at spans ⊢
    · rw [west, east] at spans ⊢
      exact spans.symm
  · have spans := spans_smaller_larger other.north other.south
    rcases sides.latitude with ⟨north, south⟩ | ⟨north, south⟩
    · rw [north, south] at spans ⊢
      exact spans.symm
    · rwa [north, south] at spans ⊢

/-- The ends of the axes are storable exactly when the geographic extent is. -/
theorem AreEndsOf.storable_iff {xmin ymin xmax ymax : Binary64}
    (ends : AreEndsOf xmin ymin xmax ymax geographic) :
    [xmin, ymin, xmax, ymax].all isStorable = true ↔ geographic.IsStorable := by
  have longitude := haveStorableEnds_iff ends.longitude
  have latitude := haveStorableEnds_iff ends.latitude.symm
  constructor
  · intro storable
    simp only [List.all_cons, List.all_nil, Bool.and_true, Bool.and_eq_true] at storable
    obtain ⟨xmin_storable, ymin_storable, xmax_storable, ymax_storable⟩ := storable
    exact ⟨longitude.mpr ⟨xmin_storable, xmax_storable⟩,
      latitude.mpr ⟨ymin_storable, ymax_storable⟩⟩
  · rintro ⟨longitude_storable, latitude_storable⟩
    obtain ⟨xmin_storable, xmax_storable⟩ := longitude.mp longitude_storable
    obtain ⟨ymin_storable, ymax_storable⟩ := latitude.mp latitude_storable
    simp [xmin_storable, ymin_storable, xmax_storable, ymax_storable]

/-- The ends of a storable extent are in order on both axes. -/
theorem AreEndsOf.in_order {xmin ymin xmax ymax : Binary64}
    (ends : AreEndsOf xmin ymin xmax ymax geographic) (storable : geographic.IsStorable) :
    xmin.le xmax = true ∧ ymin.le ymax = true :=
  ⟨ends.longitude.low_le_high storable.longitude.some_number,
    ends.latitude.symm.low_le_high storable.latitude.some_number⟩

/-- One extent has one list of ends, but for the signs of zeros. -/
theorem AreEndsOf.places_eq {xmin ymin xmax ymax xmin' ymin' xmax' ymax' : Binary64}
    (ends : AreEndsOf xmin ymin xmax ymax geographic)
    (ends' : AreEndsOf xmin' ymin' xmax' ymax' geographic) :
    [xmin, ymin, xmax, ymax].map place? = [xmin', ymin', xmax', ymax'].map place? := by
  obtain ⟨xmin_place, xmax_place⟩ := ends.longitude.place_eq ends'.longitude
  obtain ⟨ymin_place, ymax_place⟩ := ends.latitude.place_eq ends'.latitude
  simp [xmin_place, ymin_place, xmax_place, ymax_place]

theorem setGeographic_of_isStorable (sides : other.HasSidesOf geographic)
    (storable : geographic.IsStorable) :
    ∃ xmin ymin xmax ymax, AreEndsOf xmin ymin xmax ymax geographic ∧
      StoresResolved (setGeographic other) server earlier extent xmin ymin xmax ymax
        geographicSrid := by
  have ends := areEndsOf_of_hasSidesOf sides
  exact ⟨_, _, _, _, ends, store_of_storable (ends.storable_iff.mpr storable) geographicSrid⟩

theorem setGeographic_of_not_isStorable (sides : other.HasSidesOf geographic)
    (unstorable : ¬ geographic.IsStorable) :
    ∃ xmin ymin xmax ymax, AreEndsOf xmin ymin xmax ymax geographic ∧
      (setGeographic other).FailsAtOnce server earlier extent (.invalid xmin ymin xmax ymax) := by
  have ends := areEndsOf_of_hasSidesOf sides
  exact ⟨_, _, _, _, ends,
    store_of_unstorable (mt ends.storable_iff.mp unstorable) geographicSrid⟩

/-- The call is refused for its coordinates, without a query, and leaves the extent. -/
def IsRefused (action : Revision ExtentError Unit) (server : Server) (earlier : List String)
    (extent : Extent) : Prop :=
  ∃ xmin ymin xmax ymax, action.FailsAtOnce server earlier extent (.invalid xmin ymin xmax ymax)

/-- A geographic extent is refused exactly when it is not storable. -/
theorem setGeographic_isRefused_iff :
    IsRefused (setGeographic geographic) server earlier extent ↔ ¬ geographic.IsStorable := by
  constructor
  · rintro ⟨xmin, ymin, xmax, ymax, fails⟩ storable
    obtain ⟨_, _, _, _, -, stores⟩ := setGeographic_of_isStorable (.refl geographic) storable
    exact absurd fails (stores.not_failsAtOnce nofun)
  · intro unstorable
    obtain ⟨xmin, ymin, xmax, ymax, -, fails⟩ :=
      setGeographic_of_not_isStorable (.refl geographic) unstorable
    exact ⟨xmin, ymin, xmax, ymax, fails⟩

/-! ## Orders of the sides -/

/-- The errors are the same, but for the signs of zeros among refused coordinates. -/
inductive ErrorsAlike : ExtentError → ExtentError → Prop
  | same (error : ExtentError) : ErrorsAlike error error
  | refused {xmin ymin xmax ymax xmin' ymin' xmax' ymax' : Binary64}
      (places_eq : [xmin, ymin, xmax, ymax].map place? = [xmin', ymin', xmax', ymax'].map place?) :
      ErrorsAlike (.invalid xmin ymin xmax ymax) (.invalid xmin' ymin' xmax' ymax')

/-- The extents are the same, but for the signs of zeros. -/
structure ExtentsAlike (first second : Extent) : Prop where
  places_eq : first.coordinates.map place? = second.coordinates.map place?
  reference_eq : first.reference = second.reference

/-- Both calls put the same queries, and both store extents that are alike or both fail with errors
that are alike and leave one extent. -/
inductive EndingsAlike : Revision.Ending ExtentError → Revision.Ending ExtentError → Prop
  | stored {first second : Extent} (queries : List String) (alike : ExtentsAlike first second) :
      EndingsAlike ⟨.ok (), first, queries⟩ ⟨.ok (), second, queries⟩
  | failed {first second : ExtentError} (left : Extent) (queries : List String)
      (alike : ErrorsAlike first second) :
      EndingsAlike ⟨.error first, left, queries⟩ ⟨.error second, left, queries⟩

/-- Geographic extents with the same sides, in whichever order, end alike. -/
theorem setGeographic_endingsAlike (sides : other.HasSidesOf geographic) :
    EndingsAlike ((setGeographic other).ending server earlier extent)
      ((setGeographic geographic).ending server earlier extent) := by
  by_cases storable : geographic.IsStorable
  · obtain ⟨_, _, _, _, ends, stores⟩ := setGeographic_of_isStorable sides storable
    obtain ⟨_, _, _, _, ends', stores'⟩ :=
      setGeographic_of_isStorable (.refl geographic) storable
    cases outcome : (SpatialReference.resolveSrid geographicSrid).result server earlier with
    | ok reference =>
      rw [stores.stored reference outcome, stores'.stored reference outcome]
      exact .stored _ ⟨ends.places_eq ends', rfl⟩
    | error error =>
      rw [stores.unresolved error outcome, stores'.unresolved error outcome]
      exact .failed extent _ (.same _)
  · obtain ⟨_, _, _, _, ends, fails⟩ := setGeographic_of_not_isStorable sides storable
    obtain ⟨_, _, _, _, ends', fails'⟩ :=
      setGeographic_of_not_isStorable (.refl geographic) storable
    rw [fails, fails']
    exact .failed extent [] (.refused (ends.places_eq ends'))

/-- Where no axis has zeros of both signs, the order of the sides makes no difference at all. -/
theorem setGeographic_eq (sides : other.HasSidesOf geographic)
    (zeros_agree : geographic.ZerosAgree) : setGeographic other = setGeographic geographic := by
  have ends := areEndsOf_of_hasSidesOf sides
  have ends' := areEndsOf_of_hasSidesOf (.refl geographic)
  obtain ⟨xmin_eq, xmax_eq⟩ :=
    ends.longitude.eq_of_zeros_agree ends'.longitude zeros_agree.longitude
  obtain ⟨ymin_eq, ymax_eq⟩ :=
    ends.latitude.eq_of_zeros_agree ends'.latitude zeros_agree.latitude
  unfold setGeographic
  rw [xmin_eq, ymin_eq, xmax_eq, ymax_eq]

/-- Unless NaN stands beside a number and nothing else is wrong, a geographic extent is refused
exactly when one of its sides is NaN, infinite or extreme: without a query, and with the extent at
hand left alone.  A masked NaN is never refused.  What is not refused is stored with the geographic
reference, if that resolves, and has the smaller and the larger side of each axis in order.  The
order in which the two sides of an axis come makes no difference but in the signs of zeros. -/
theorem geographic_extent_is_put_in_order (server : Server) (earlier : List String)
    (extent : Extent) (geographic : GeographicExtent) :
    let call := setGeographic geographic
    (¬ geographic.MasksNan →
      (IsRefused call server earlier extent ↔ ∃ side ∈ geographic.sides, IsUnfit side)) ∧
    (geographic.MasksNan → ¬ IsRefused call server earlier extent) ∧
    (¬ IsRefused call server earlier extent →
      ∃ xmin ymin xmax ymax, AreEndsOf xmin ymin xmax ymax geographic ∧
        xmin.le xmax = true ∧ ymin.le ymax = true ∧
        StoresResolved call server earlier extent xmin ymin xmax ymax geographicSrid) ∧
    ∀ other : GeographicExtent, other.HasSidesOf geographic →
      EndingsAlike ((setGeographic other).ending server earlier extent)
        (call.ending server earlier extent) ∧
      (geographic.ZerosAgree → setGeographic other = call) := by
  intro call
  have refused_iff : IsRefused call server earlier extent ↔ ¬ geographic.IsStorable :=
    setGeographic_isRefused_iff
  rw [refused_iff]
  refine ⟨unfit_matters_iff.mpr, ?_, ?_, ?_⟩
  · exact fun masks unstorable => unstorable (masksNan_iff.mp masks).1
  · intro accepted
    have storable : geographic.IsStorable := Classical.not_not.mp accepted
    obtain ⟨xmin, ymin, xmax, ymax, ends, stores⟩ :=
      setGeographic_of_isStorable (.refl geographic) storable
    obtain ⟨width, height⟩ := ends.in_order storable
    exact ⟨xmin, ymin, xmax, ymax, ends, width, height, stores⟩
  · intro other sides
    exact ⟨setGeographic_endingsAlike sides, setGeographic_eq sides⟩

/-- Only the western side is NaN. -/
def sidedExtent : GeographicExtent where
  west := .nan
  east := .ofUnits false (5 * unitsPerOne) 1
  north := .ofUnits false unitsPerOne 1
  south := .ofUnits false (2 * unitsPerOne) 1

/-- An extent with NaN is stored as a box without width, at its other side. -/
theorem nan_beside_number_is_dropped :
    .nan ∈ sidedExtent.sides ∧
      (setGeographic sidedExtent).ending (Memory.mk Memory.standardEntries []).server []
          unbounded =
        ⟨.ok (), ⟨sidedExtent.east, sidedExtent.north, sidedExtent.east, sidedExtent.south,
          ⟨geographicSrid, "EPSG", geographicSrid, true⟩⟩,
          [SpatialReference.queryBySrid geographicSrid]⟩ := by
  have resolved : (SpatialReference.resolveSrid geographicSrid).result
      (Memory.mk Memory.standardEntries []).server [] =
        .ok ⟨geographicSrid, "EPSG", geographicSrid, true⟩ :=
    eq_ok_of_toOption (by decide +kernel)
  have storable : [sidedExtent.east, sidedExtent.north, sidedExtent.east, sidedExtent.south].all
      isStorable = true := by decide +kernel
  have call : setGeographic sidedExtent = store sidedExtent.east sidedExtent.north
      sidedExtent.east sidedExtent.south geographicSrid := by
    have smaller : sidedExtent.north.smaller sidedExtent.south = sidedExtent.north := by
      decide +kernel
    have larger : sidedExtent.north.larger sidedExtent.south = sidedExtent.south := by
      decide +kernel
    unfold setGeographic
    rw [smaller, larger]
    rfl
  rw [call]
  exact ⟨by decide, (store_of_storable storable geographicSrid).stored _ resolved⟩

end Extent

end SpatialFilter
