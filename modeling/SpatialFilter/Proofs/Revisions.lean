import SpatialFilter.Extent.Command
import SpatialFilter.Proofs.LookupResults

/-!
# All or nothing

A revision may replace the extent at hand at any point and fail afterwards.  None of the
operations does: each ends in its only replacement.  `Ensures` says so for one call, together with
what holds of the extent that a successful call leaves, and its rules follow an operation from its
first check to that replacement.
-/

namespace SpatialFilter

open SpatialFilter.Number
open SpatialFilter.Database

namespace Revision

variable {ε δ α : Type} {server : Server} {earlier : List String} {extent : Extent}
variable {post : Extent → Prop}

/-- A call of the revision on an extent, after earlier queries, leaves that extent when it fails
and an extent with the property when it succeeds. -/
def Ensures (action : Revision ε Unit) (server : Server) (earlier : List String)
    (extent : Extent) (post : Extent → Prop) : Prop :=
  match ((action.run.run extent).run server earlier).1 with
  | (.error _, next) => next = extent
  | (.ok (), next) => post next

theorem ensures_throw (error : ε) :
    Ensures (throw error : Revision ε Unit) server earlier extent post := rfl

theorem ensures_replace {next : Extent} (holds : post next) :
    Ensures (replace next : Revision ε Unit) server earlier extent post := holds

theorem run_get_bind {next : Extent → Revision ε Unit} :
    (get >>= next).run.run extent = (next extent).run.run extent := rfl

theorem ensures_get {next : Extent → Revision ε Unit}
    (later : Ensures (next extent) server earlier extent post) :
    Ensures (get >>= next) server earlier extent post := later

/-- A lookup leaves the extent alone, so that what follows starts on the extent at hand, after the
queries of the lookup. -/
theorem run_ofLookup_bind {wrap : δ → ε} {lookup : Lookup δ α} {next : α → Revision ε Unit} :
    ((ofLookup wrap lookup >>= next).run.run extent).run server earlier =
      match lookup.result server earlier with
      | .ok value =>
        let later := ((next value).run.run extent).run server
          (earlier ++ lookup.queries server earlier)
        (later.1, lookup.queries server earlier ++ later.2)
      | .error error => ((.error (wrap error), extent), lookup.queries server earlier) := by
  have run : (ofLookup wrap lookup >>= next).run.run extent =
      ((lookup.run >>= fun outcome => pure (outcome.mapError wrap)) >>= fun outcome =>
        pure (outcome, extent)) >>= fun (outcome, after) =>
          (ExceptT.bindCont next outcome : StateT Extent Inquiry _) after := rfl
  rw [run, Inquiry.run_bind, Inquiry.run_bind, Inquiry.run_bind]
  simp only [Inquiry.run_pure, List.append_nil]
  unfold Lookup.result Lookup.queries
  cases (lookup.run.run server earlier).1 with
  | ok value => rfl
  | error error =>
    have stops : (ExceptT.bindCont next (.error (wrap error)) : StateT Extent Inquiry _) extent =
        pure (.error (wrap error), extent) := rfl
    dsimp only [Except.mapError]
    rw [stops, Inquiry.run_pure, List.append_nil]

theorem run_ofLookup_bind_fst {wrap : δ → ε} {lookup : Lookup δ α}
    {next : α → Revision ε Unit} :
    (((ofLookup wrap lookup >>= next).run.run extent).run server earlier).1 =
      match lookup.result server earlier with
      | .ok value =>
        (((next value).run.run extent).run server (earlier ++ lookup.queries server earlier)).1
      | .error error => (.error (wrap error), extent) := by
  rw [run_ofLookup_bind]
  cases lookup.result server earlier <;> rfl

/-- Behind a lookup, what follows has to ensure the property for whatever the lookup finds. -/
theorem ensures_ofLookup {wrap : δ → ε} {lookup : Lookup δ α} {next : α → Revision ε Unit}
    (later : ∀ value, lookup.result server earlier = .ok value →
      Ensures (next value) server (earlier ++ lookup.queries server earlier) extent post) :
    Ensures (ofLookup wrap lookup >>= next) server earlier extent post := by
  unfold Ensures
  rw [run_ofLookup_bind_fst]
  cases outcome : lookup.result server earlier with
  | error error => rfl
  | ok value => exact later value outcome

theorem ensures_ofExcept {wrap : δ → ε} {result : Except δ α} {next : α → Revision ε Unit}
    (later : ∀ value, result = .ok value → Ensures (next value) server earlier extent post) :
    Ensures (ofExcept wrap result >>= next) server earlier extent post := by
  cases result with
  | error error => rfl
  | ok value => exact later value rfl

theorem ensures_adapt {wrap : δ → ε} {action : Revision δ Unit}
    (ensured : action.Ensures server earlier extent post) :
    Ensures (action.adapt wrap) server earlier extent post := by
  have run : (ExceptT.adapt wrap action).run.run extent =
      action.run.run extent >>= fun (outcome, after) => pure (outcome.mapError wrap, after) := rfl
  unfold Ensures at ensured ⊢
  rw [run, Inquiry.run_bind]
  rcases reached : ((action.run.run extent).run server earlier).1 with ⟨outcome, next⟩
  rw [reached] at ensured
  cases outcome <;> exact ensured

theorem Ensures.imp {action : Revision ε Unit} {post' : Extent → Prop}
    (ensured : action.Ensures server earlier extent post)
    (weaker : ∀ next, post next → post' next) :
    action.Ensures server earlier extent post' := by
  unfold Ensures at ensured ⊢
  rcases reached : ((action.run.run extent).run server earlier).1 with ⟨outcome, next⟩
  rw [reached] at ensured
  cases outcome with
  | error error => exact ensured
  | ok value => exact weaker next ensured

end Revision

namespace Extent

variable {server : Server} {earlier : List String} {extent : Extent}

/-! ## What a call leaves -/

/-- The extent has the coordinates, which are storable, and the reference that the srid resolves
to. -/
structure IsStored (server : Server) (earlier : List String) (coordinates : List Binary64)
    (srid : Int32) (next : Extent) : Prop where
  coordinates_eq : next.coordinates = coordinates
  storable : next.coordinates.all isStorable = true
  resolved : (SpatialReference.resolveSrid srid).result server earlier = .ok next.reference
  srid_eq : next.reference.srid = srid

/-- The extent is made of the only row in the answer to the reprojection query. -/
structure IsReprojected (server : Server) (earlier : List String) (extent : Extent)
    (target : Int32) (next : Extent) : Prop where
  from_row : ∃ text row, extent.reprojectionQuery target = .ok text ∧
    server.reply earlier text = .ok [row] ∧ IsHeldBy target row next
  srid_eq : next.reference.srid = target

/-- What a command leaves of an extent when it succeeds. -/
def Command.Leaves (catalog : LayerCatalog) (server : Server) (earlier : List String)
    (extent : Extent) : Command → Extent → Prop
  | .set xmin ymin xmax ymax srid, next =>
    IsStored server earlier [xmin, ymin, xmax, ymax] srid next
  | .setText text srid, next =>
    ∃ coordinates, readCoordinates? text = some coordinates ∧
      IsStored server earlier coordinates srid next
  | .setGeographic geographic, next =>
    IsStored server earlier
      [geographic.west.smaller geographic.east, geographic.north.smaller geographic.south,
        geographic.west.larger geographic.east, geographic.north.larger geographic.south]
      geographicSrid next
  | .aggregate layers filters, next =>
    (Extent.aggregate catalog layers filters).result server earlier = .ok next
  | .reproject target, next => IsReprojected server earlier extent target next
  | .reset, next => next = unbounded

/-! ## The operations -/

theorem store_ensures (xmin ymin xmax ymax : Binary64) (srid : Int32) :
    (store xmin ymin xmax ymax srid).Ensures server earlier extent
      (IsStored server earlier [xmin, ymin, xmax, ymax] srid) := by
  unfold store
  split
  next storable =>
    apply Revision.ensures_ofLookup
    intro reference resolved
    apply Revision.ensures_replace
    exact ⟨rfl, storable, resolved, resolveSrid_srid resolved⟩
  · exact Revision.ensures_throw _

theorem setCoordinates_ensures (xmin ymin xmax ymax : Binary64) (srid : Int32) :
    (setCoordinates xmin ymin xmax ymax srid).Ensures server earlier extent
      (IsStored server earlier [xmin, ymin, xmax, ymax] srid) := by
  unfold setCoordinates
  split
  · exact Revision.ensures_throw _
  · exact store_ensures xmin ymin xmax ymax srid

theorem setText_ensures (text : String) (srid : Int32) :
    (setText text srid).Ensures server earlier extent fun next =>
      ∃ coordinates, readCoordinates? text = some coordinates ∧
        IsStored server earlier coordinates srid next := by
  unfold setText
  split
  next xmin ymin xmax ymax read =>
    apply (setCoordinates_ensures xmin ymin xmax ymax srid).imp
    intro next stored
    exact ⟨_, read, stored⟩
  · exact Revision.ensures_throw _

/-- A reprojection replaces the extent by what the only row of an answer holds, or leaves it. -/
theorem reproject_ensures (target : Int32) :
    (reproject target).Ensures server earlier extent
      (IsReprojected server earlier extent target) := by
  unfold reproject
  apply Revision.ensures_get
  split
  · exact Revision.ensures_throw _
  · apply Revision.ensures_ofExcept
    intro text text_eq
    apply Revision.ensures_ofLookup
    intro rows answered
    rw [Lookup.result_query, mapError_eq_ok] at answered
    split
    next row =>
      apply Revision.ensures_ofExcept
      intro next read
      have held := ofReprojectionRow_eq_ok_iff.mp read
      apply Revision.ensures_replace
      exact ⟨⟨text, row, text_eq, answered, held⟩, held.reference.srid_eq⟩
    · exact Revision.ensures_throw _

/-- Every command ensures what it is said to leave. -/
theorem action_ensures (catalog : LayerCatalog) (command : Command) :
    (command.action catalog).Ensures server earlier extent
      (command.Leaves catalog server earlier extent) := by
  cases command with
  | set xmin ymin xmax ymax srid =>
    exact Revision.ensures_adapt (setCoordinates_ensures xmin ymin xmax ymax srid)
  | setText text srid => exact Revision.ensures_adapt (setText_ensures text srid)
  | setGeographic geographic => exact Revision.ensures_adapt (store_ensures _ _ _ _ _)
  | aggregate layers filters =>
    apply Revision.ensures_ofLookup
    intro next aggregated
    exact Revision.ensures_replace aggregated
  | reproject target => exact Revision.ensures_adapt (reproject_ensures target)
  | reset => exact Revision.ensures_replace rfl

/-- A step runs the action of its command. -/
theorem run_step (catalog : LayerCatalog) (command : Command) :
    ((step catalog extent command).run server earlier).1 =
      ((((command.action catalog).run.run extent).run server earlier).1.2,
        (((command.action catalog).run.run extent).run server earlier).1.1) := by
  have run : step catalog extent command =
      (command.action catalog).run.run extent >>= fun left => pure (left.2, left.1) := rfl
  rw [run, Inquiry.run_bind]
  rfl

/-- The two ways in which a command ends. -/
theorem step_cases {catalog : LayerCatalog} {command : Command} {post : Extent → Prop}
    (ensured : (command.action catalog).Ensures server earlier extent post) :
    (∃ error, ((step catalog extent command).run server earlier).1 = (extent, .error error)) ∨
      ∃ next, ((step catalog extent command).run server earlier).1 = (next, .ok ()) ∧
        post next := by
  unfold Revision.Ensures at ensured
  rw [run_step]
  rcases reached : (((command.action catalog).run.run extent).run server earlier).1 with
    ⟨outcome, next⟩
  rw [reached] at ensured
  cases outcome with
  | error error =>
    have kept : next = extent := ensured
    exact Or.inl ⟨error, by rw [kept]⟩
  | ok value => exact Or.inr ⟨next, rfl, ensured⟩

/-- A property that success ensures is kept by a command, which may also fail. -/
theorem step_preserves {holds : Extent → Prop} {catalog : LayerCatalog} {command : Command}
    (ensured : (command.action catalog).Ensures server earlier extent holds)
    (here : holds extent) : holds ((step catalog extent command).run server earlier).1.1 := by
  rcases step_cases ensured with ⟨error, ended⟩ | ⟨next, ended, there⟩
  · rw [ended]
    exact here
  · rw [ended]
    exact there

/-- A property that every success ensures holds after a run on an extent that has it. -/
theorem afterAll_preserves (holds : Extent → Prop) {catalog : LayerCatalog}
    (ensured : ∀ (earlier : List String) (extent : Extent) (command : Command),
      (command.action catalog).Ensures server earlier extent holds)
    (here : holds extent) (commands : List Command) :
    holds ((afterAll catalog extent commands).run server earlier).1 := by
  induction commands generalizing extent earlier with
  | nil => exact here
  | cons command rest ih =>
    simp only [afterAll, Inquiry.run_bind]
    exact ih (step_preserves (ensured earlier extent command) here)

/-- A command either fails and leaves the extent exactly as it was, or succeeds and leaves one
whose four coordinates and reference are all new: the given coordinates with the reference of the
given srid, or one row of the database with the reference of the target.  The database may answer
as it likes, and differently each time. -/
theorem command_changes_all_or_nothing (catalog : LayerCatalog) (server : Server)
    (earlier : List String) (extent : Extent) (command : Command) :
    match ((step catalog extent command).run server earlier).1 with
    | (next, .error _) => next = extent
    | (next, .ok ()) => command.Leaves catalog server earlier extent next := by
  have ensured : (command.action catalog).Ensures server earlier extent
      (command.Leaves catalog server earlier extent) := action_ensures catalog command
  unfold Revision.Ensures at ensured
  rw [run_step]
  rcases reached : (((command.action catalog).run.run extent).run server earlier).1 with
    ⟨outcome, next⟩
  rw [reached] at ensured
  cases outcome <;> exact ensured

end Extent

end SpatialFilter
