import Mathlib.Data.List.Forall2
import SpatialFilter.Proofs.NumberOrder
import SpatialFilter.Proofs.Revisions
import SpatialFilter.Proofs.Words

/-!
# Which coordinates are accepted

Setting an extent checks its coordinates first, without a query, and then resolves the srid.  Four
numbers are accepted exactly when they are ordered, finite and not extreme (`AreOrdered`).  A
text stands for four numbers exactly when it lists them between commas (`ListsNumbers`), and is
malformed otherwise.  The main statement follows a call to its end: the result, the extent that it
leaves and the queries that it puts (`ordered_extents_are_accepted`).
-/

namespace SpatialFilter

open SpatialFilter.Number
open SpatialFilter.Database
open SpatialFilter.Text

/-! ## How calls end -/

namespace Revision

/-- How a call ends: its result, the extent that it leaves, and the queries that it has put. -/
structure Ending (ε : Type) where
  result : Except ε Unit
  left : Extent
  queries : List String

variable {ε δ α : Type} {server : Server} {earlier : List String} {extent : Extent}

/-- The end of a call on an extent, after earlier queries. -/
def ending (action : Revision ε Unit) (server : Server) (earlier : List String)
    (extent : Extent) : Ending ε where
  result := ((action.run.run extent).run server earlier).1.1
  left := ((action.run.run extent).run server earlier).1.2
  queries := ((action.run.run extent).run server earlier).2

/-- The call fails without a query and leaves the extent as it was. -/
def FailsAtOnce (action : Revision ε Unit) (server : Server) (earlier : List String)
    (extent : Extent) (error : ε) : Prop :=
  action.ending server earlier extent = ⟨.error error, extent, []⟩

theorem FailsAtOnce.result_eq {action : Revision ε Unit} {error : ε}
    (fails : action.FailsAtOnce server earlier extent error) :
    (action.ending server earlier extent).result = .error error :=
  congrArg Ending.result fails

theorem FailsAtOnce.error_eq {action : Revision ε Unit} {error error' : ε}
    (fails : action.FailsAtOnce server earlier extent error)
    (fails' : action.FailsAtOnce server earlier extent error') : error = error' :=
  Except.error.inj (fails.result_eq.symm.trans fails'.result_eq)

theorem throw_failsAtOnce (error : ε) :
    FailsAtOnce (throw error : Revision ε Unit) server earlier extent error := rfl

theorem ending_replace (next : Extent) :
    (replace next : Revision ε Unit).ending server earlier extent = ⟨.ok (), next, []⟩ := rfl

/-- What follows a lookup starts on the same extent, after the queries of the lookup. -/
theorem ending_ofLookup_bind {wrap : δ → ε} {lookup : Lookup δ α} {next : α → Revision ε Unit} :
    (ofLookup wrap lookup >>= next).ending server earlier extent =
      match lookup.result server earlier with
      | .ok value =>
        let later := (next value).ending server (earlier ++ lookup.queries server earlier) extent
        ⟨later.result, later.left, lookup.queries server earlier ++ later.queries⟩
      | .error error => ⟨.error (wrap error), extent, lookup.queries server earlier⟩ := by
  unfold ending
  rw [run_ofLookup_bind]
  cases lookup.result server earlier <;> rfl

/-- A call may start with a look at the extent at hand. -/
theorem ending_get_bind (next : Extent → Revision ε Unit) :
    (get >>= next).ending server earlier extent = (next extent).ending server earlier extent := rfl

theorem ending_ofExcept_ok (wrap : δ → ε) (value : α) (next : α → Revision ε Unit) :
    (ofExcept wrap (.ok value) >>= next).ending server earlier extent =
      (next value).ending server earlier extent := rfl

theorem ending_ofExcept_error (wrap : δ → ε) (error : δ) (next : α → Revision ε Unit) :
    (ofExcept wrap (.error error) >>= next).ending server earlier extent =
      ⟨.error (wrap error), extent, []⟩ := rfl

end Revision

namespace Extent

variable {server : Server} {earlier : List String} {extent : Extent}

/-- The call resolves the srid.  It stores the coordinates with the reference that it finds, and
otherwise fails with the error of the lookup and leaves the extent. -/
structure StoresResolved (action : Revision ExtentError Unit) (server : Server)
    (earlier : List String) (extent : Extent) (xmin ymin xmax ymax : Binary64) (srid : Int32) :
    Prop where
  stored : ∀ reference, (SpatialReference.resolveSrid srid).result server earlier = .ok reference →
    action.ending server earlier extent =
      ⟨.ok (), ⟨xmin, ymin, xmax, ymax, reference⟩,
        (SpatialReference.resolveSrid srid).queries server earlier⟩
  unresolved : ∀ error,
    (SpatialReference.resolveSrid srid).result server earlier = .error error →
      action.ending server earlier extent =
        ⟨.error (.reference error), extent,
          (SpatialReference.resolveSrid srid).queries server earlier⟩

namespace StoresResolved

variable {action : Revision ExtentError Unit} {xmin ymin xmax ymax : Binary64} {srid : Int32}

theorem result_eq_ok_iff
    (stores : StoresResolved action server earlier extent xmin ymin xmax ymax srid) :
    (action.ending server earlier extent).result = .ok () ↔
      ∃ reference, (SpatialReference.resolveSrid srid).result server earlier = .ok reference := by
  cases outcome : (SpatialReference.resolveSrid srid).result server earlier with
  | ok reference => simp [stores.stored reference outcome]
  | error error => simp [stores.unresolved error outcome]

/-- Such a call fails with errors of the lookup only. -/
theorem not_failsAtOnce {error : ExtentError}
    (stores : StoresResolved action server earlier extent xmin ymin xmax ymax srid)
    (other : ∀ unresolved, error ≠ .reference unresolved) :
    ¬ action.FailsAtOnce server earlier extent error := by
  unfold Revision.FailsAtOnce
  cases outcome : (SpatialReference.resolveSrid srid).result server earlier with
  | ok reference => simp [stores.stored reference outcome]
  | error unresolved => simp [stores.unresolved unresolved outcome, (other unresolved).symm]

end StoresResolved

/-! ## Coordinates -/

theorem isStorable_iff {value : Binary64} :
    isStorable value = true ↔ value.isFinite = true ∧ isExtreme value = false := by
  simp [isStorable]

variable {xmin ymin xmax ymax : Binary64}

theorem store_of_storable (storable : [xmin, ymin, xmax, ymax].all isStorable = true)
    (srid : Int32) :
    StoresResolved (store xmin ymin xmax ymax srid) server earlier extent xmin ymin xmax ymax
      srid := by
  unfold store
  rw [if_pos storable]
  constructor
  · intro reference resolved
    rw [Revision.ending_ofLookup_bind, resolved]
    simp [Revision.ending_replace]
  · intro error unresolved
    rw [Revision.ending_ofLookup_bind, unresolved]

theorem store_of_unstorable (unstorable : ¬ [xmin, ymin, xmax, ymax].all isStorable = true)
    (srid : Int32) :
    (store xmin ymin xmax ymax srid).FailsAtOnce server earlier extent
      (.invalid xmin ymin xmax ymax) := by
  unfold store
  rw [if_neg unstorable]
  exact Revision.throw_failsAtOnce _

/-- The coordinates of a box of some width and height: finite numbers, none of them extreme, in
order on both axes. -/
structure AreOrdered (xmin ymin xmax ymax : Binary64) : Prop where
  width : xmin.lt xmax = true
  height : ymin.lt ymax = true
  finite : ∀ value ∈ [xmin, ymin, xmax, ymax], value.isFinite = true
  not_extreme : ∀ value ∈ [xmin, ymin, xmax, ymax], isExtreme value = false

/-- NaN passes the check of the order, and it is the check of each coordinate that refuses it. -/
theorem areOrdered_iff :
    AreOrdered xmin ymin xmax ymax ↔
      ¬ (xmax.le xmin || ymax.le ymin) = true ∧
        [xmin, ymin, xmax, ymax].all isStorable = true := by
  have checked : [xmin, ymin, xmax, ymax].all isStorable = true ↔
      ∀ value ∈ [xmin, ymin, xmax, ymax], value.isFinite = true ∧ isExtreme value = false := by
    simp only [List.all_eq_true, isStorable_iff]
  rw [checked, Bool.or_eq_true, not_or]
  constructor
  · rintro ⟨width, height, finite, not_extreme⟩
    obtain ⟨xmin_number, xmax_number⟩ := Binary64.number_of_le (Binary64.le_of_lt width)
    obtain ⟨ymin_number, ymax_number⟩ := Binary64.number_of_le (Binary64.le_of_lt height)
    exact ⟨⟨(Binary64.lt_iff_not_le xmin_number xmax_number).mp width,
        (Binary64.lt_iff_not_le ymin_number ymax_number).mp height⟩,
      fun value member => ⟨finite value member, not_extreme value member⟩⟩
  · rintro ⟨⟨width, height⟩, storable⟩
    have number : ∀ value ∈ [xmin, ymin, xmax, ymax], value ≠ .nan := fun value member =>
      Binary64.number_of_isFinite (storable value member).1
    refine ⟨?_, ?_, fun value member => (storable value member).1,
      fun value member => (storable value member).2⟩
    · exact (Binary64.lt_iff_not_le (number xmin (by simp)) (number xmax (by simp))).mpr width
    · exact (Binary64.lt_iff_not_le (number ymin (by simp)) (number ymax (by simp))).mpr height

theorem setCoordinates_of_ordered (ordered : AreOrdered xmin ymin xmax ymax) (srid : Int32) :
    StoresResolved (setCoordinates xmin ymin xmax ymax srid) server earlier extent xmin ymin xmax
      ymax srid := by
  obtain ⟨in_order, storable⟩ := areOrdered_iff.mp ordered
  unfold setCoordinates
  rw [if_neg in_order]
  exact store_of_storable storable srid

/-- All other coordinates are refused before a query is put. -/
theorem setCoordinates_of_not_ordered (refused : ¬ AreOrdered xmin ymin xmax ymax)
    (srid : Int32) :
    (setCoordinates xmin ymin xmax ymax srid).FailsAtOnce server earlier extent
      (.invalid xmin ymin xmax ymax) := by
  unfold setCoordinates
  split
  · exact Revision.throw_failsAtOnce _
  next in_order =>
    apply store_of_unstorable
    intro storable
    exact refused (areOrdered_iff.mpr ⟨in_order, storable⟩)

/-- Coordinates are taken exactly when they are ordered and the srid resolves. -/
theorem setCoordinates_eq_ok_iff {srid : Int32} :
    ((setCoordinates xmin ymin xmax ymax srid).ending server earlier extent).result = .ok () ↔
      AreOrdered xmin ymin xmax ymax ∧
        ∃ reference, (SpatialReference.resolveSrid srid).result server earlier = .ok reference := by
  by_cases ordered : AreOrdered xmin ymin xmax ymax
  · rw [(setCoordinates_of_ordered ordered srid).result_eq_ok_iff]
    simp [ordered]
  · rw [(setCoordinates_of_not_ordered ordered srid).result_eq]
    simp [ordered]

theorem AreOrdered.isUnbounded_eq_false (ordered : AreOrdered xmin ymin xmax ymax)
    (reference : SpatialReference) :
    (Extent.mk xmin ymin xmax ymax reference).isUnbounded = false := by
  simpa [isUnbounded, coordinates] using ordered.not_extreme

theorem AreOrdered.isProper (ordered : AreOrdered xmin ymin xmax ymax)
    (reference : SpatialReference) :
    (Extent.mk xmin ymin xmax ymax reference).isProper = true := by
  simp [Extent.isProper, ordered.isUnbounded_eq_false reference, ordered.width, ordered.height]

/-! ## Texts of coordinates -/

/-- The text lists the numbers: it is made of fields with commas between them, and each field is
the numeral of one number between blanks. -/
def ListsNumbers (text : String) (numbers : List Binary64) : Prop :=
  ∃ fields : List (List Char), fields ≠ [] ∧ (∀ field ∈ fields, ',' ∉ field) ∧
    [','].intercalate fields = text.toList ∧
    List.Forall₂ (fun field number => Binary64.read? (trim field) = some number) fields numbers

/-- All fields are read exactly when each of them is. -/
theorem mapM_eq_some_iff {α β : Type} {read : α → Option β} {fields : List α} {values : List β} :
    fields.mapM read = some values ↔
      List.Forall₂ (fun field value => read field = some value) fields values := by
  induction fields generalizing values with
  | nil => simp [eq_comm]
  | cons field rest ih =>
    simp [List.mapM_cons, List.forall₂_cons_left_iff, Option.bind_eq_some_iff, ih,
      @eq_comm _ values]

/-- A text is read as the numbers exactly when it lists them. -/
theorem readCoordinates_eq_some_iff {text : String} {numbers : List Binary64} :
    readCoordinates? text = some numbers ↔ ListsNumbers text numbers := by
  unfold readCoordinates?
  rw [mapM_eq_some_iff]
  constructor
  · intro read
    obtain ⟨some_field, free, joined⟩ := pieces_eq_iff.mp (Eq.refl (pieces _ text.toList))
    exact ⟨_, some_field, free, joined, read⟩
  · rintro ⟨fields, some_field, free, joined, read⟩
    rw [pieces_eq_iff.mpr ⟨some_field, free, joined⟩]
    exact read

theorem setText_of_listsNumbers {text : String}
    (lists : ListsNumbers text [xmin, ymin, xmax, ymax]) (srid : Int32) :
    setText text srid = setCoordinates xmin ymin xmax ymax srid := by
  unfold setText
  rw [readCoordinates_eq_some_iff.mpr lists]

theorem setText_of_not_listsNumbers {text : String}
    (other : ¬ ∃ xmin ymin xmax ymax, ListsNumbers text [xmin, ymin, xmax, ymax])
    (srid : Int32) :
    (setText text srid).FailsAtOnce server earlier extent (.malformed text) := by
  unfold setText
  split
  next xmin ymin xmax ymax read =>
    exact absurd ⟨xmin, ymin, xmax, ymax, readCoordinates_eq_some_iff.mp read⟩ other
  · exact Revision.throw_failsAtOnce _

/-- No four numbers make a call fail as one with a malformed text does. -/
theorem setCoordinates_not_malformed (text : String) (srid : Int32) :
    ¬ (setCoordinates xmin ymin xmax ymax srid).FailsAtOnce server earlier extent
      (.malformed text) := by
  by_cases ordered : AreOrdered xmin ymin xmax ymax
  · exact (setCoordinates_of_ordered ordered srid).not_failsAtOnce nofun
  · intro malformed
    cases malformed.error_eq (setCoordinates_of_not_ordered ordered srid)

/-- Four numbers are stored exactly when they are ordered, finite and not extreme and the srid
resolves.  Coordinates are refused without a query, and the only other error is that of the srid;
what is stored is proper.  A text that lists four numbers does what these numbers do, and any other
text is malformed.  All this is so for every database and whatever extent was there. -/
theorem ordered_extents_are_accepted (server : Server) (earlier : List String) (extent : Extent)
    (srid : Int32) :
    (∀ xmin ymin xmax ymax : Binary64,
      let call := setCoordinates xmin ymin xmax ymax srid
      ((call.ending server earlier extent).result = .ok () ↔
        AreOrdered xmin ymin xmax ymax ∧ ∃ reference,
          (SpatialReference.resolveSrid srid).result server earlier = .ok reference) ∧
      (¬ AreOrdered xmin ymin xmax ymax →
        call.FailsAtOnce server earlier extent (.invalid xmin ymin xmax ymax)) ∧
      (AreOrdered xmin ymin xmax ymax →
        StoresResolved call server earlier extent xmin ymin xmax ymax srid) ∧
      ((call.ending server earlier extent).result = .ok () →
        (call.ending server earlier extent).left.isProper = true ∧
          (call.ending server earlier extent).left.isUnbounded = false)) ∧
    ∀ text : String,
      (∀ xmin ymin xmax ymax, ListsNumbers text [xmin, ymin, xmax, ymax] →
        setText text srid = setCoordinates xmin ymin xmax ymax srid) ∧
      ((setText text srid).FailsAtOnce server earlier extent (.malformed text) ↔
        ¬ ∃ xmin ymin xmax ymax, ListsNumbers text [xmin, ymin, xmax, ymax]) := by
  constructor
  · intro xmin ymin xmax ymax call
    refine ⟨setCoordinates_eq_ok_iff, fun refused => setCoordinates_of_not_ordered refused srid,
      fun ordered => setCoordinates_of_ordered ordered srid, ?_⟩
    intro succeeded
    obtain ⟨ordered, reference, resolved⟩ := setCoordinates_eq_ok_iff.mp succeeded
    rw [(setCoordinates_of_ordered ordered srid).stored reference resolved]
    exact ⟨ordered.isProper reference, ordered.isUnbounded_eq_false reference⟩
  · intro text
    refine ⟨fun xmin ymin xmax ymax lists => setText_of_listsNumbers lists srid, ?_,
      fun other => setText_of_not_listsNumbers other srid⟩
    rintro malformed ⟨xmin, ymin, xmax, ymax, lists⟩
    rw [setText_of_listsNumbers lists] at malformed
    exact setCoordinates_not_malformed text srid malformed

end Extent

end SpatialFilter
