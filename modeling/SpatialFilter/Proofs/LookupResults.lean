import SpatialFilter.Proofs.RowCells

/-!
# Results of lookups

What a lookup gives against a database that has been asked some queries before.
-/

namespace SpatialFilter

open SpatialFilter.Number
open SpatialFilter.Database

namespace Database.Lookup

variable {ε δ α β : Type} {server : Server} {earlier : List String}

/-- What a lookup gives, after earlier queries. -/
def result (lookup : Lookup ε α) (server : Server) (earlier : List String) : Except ε α :=
  (lookup.run.run server earlier).1

/-- The queries that a lookup puts, after earlier ones. -/
def queries (lookup : Lookup ε α) (server : Server) (earlier : List String) : List String :=
  (lookup.run.run server earlier).2

theorem result_query (wrap : QueryError → ε) (text : String) :
    (query wrap text).result server earlier = (server.reply earlier text).mapError wrap := rfl

theorem result_liftExcept (wrap : δ → ε) (outcome : Except δ α) :
    (liftExcept wrap outcome).result server earlier = outcome.mapError wrap := rfl

theorem result_pure (value : α) :
    (pure value : Lookup ε α).result server earlier = .ok value := rfl

theorem queries_pure (value : α) :
    (pure value : Lookup ε α).queries server earlier = [] := rfl

theorem queries_query (wrap : QueryError → ε) (text : String) :
    (query wrap text).queries server earlier = [text] := rfl

theorem queries_liftExcept (wrap : δ → ε) (outcome : Except δ α) :
    (liftExcept wrap outcome).queries server earlier = [] := rfl

/-- The second of two lookups is asked after the queries of the first. -/
theorem result_bind (lookup : Lookup ε α) (next : α → Lookup ε β) :
    (lookup >>= next).result server earlier =
      match lookup.result server earlier with
      | .ok value => (next value).result server (earlier ++ lookup.queries server earlier)
      | .error error => .error error := by
  have run : (lookup >>= next).run = lookup.run >>= fun outcome => ExceptT.bindCont next outcome :=
    rfl
  unfold result queries
  rw [run, Inquiry.run_bind]
  cases (lookup.run.run server earlier).1 <;> rfl

/-- Where the first of two lookups fails, the second puts no queries. -/
theorem queries_bind (lookup : Lookup ε α) (next : α → Lookup ε β) :
    (lookup >>= next).queries server earlier =
      lookup.queries server earlier ++
        match lookup.result server earlier with
        | .ok value => (next value).queries server (earlier ++ lookup.queries server earlier)
        | .error _ => [] := by
  have run : (lookup >>= next).run = lookup.run >>= fun outcome => ExceptT.bindCont next outcome :=
    rfl
  unfold result queries
  rw [run, Inquiry.run_bind]
  cases (lookup.run.run server earlier).1 <;> rfl

/-- A sequence of two lookups gives a value exactly when both do. -/
theorem result_bind_eq_ok {lookup : Lookup ε α} {next : α → Lookup ε β} {value : β} :
    (lookup >>= next).result server earlier = .ok value ↔
      ∃ first, lookup.result server earlier = .ok first ∧
        (next first).result server (earlier ++ lookup.queries server earlier) = .ok value := by
  rw [result_bind]
  cases lookup.result server earlier <;> simp

theorem result_adapt (wrap : δ → ε) (lookup : Lookup δ α) :
    Lookup.result (lookup.adapt wrap) server earlier =
      (lookup.result server earlier).mapError wrap := by
  have run : (lookup.adapt wrap).run = lookup.run >>= fun outcome =>
      pure (outcome.mapError wrap) := rfl
  unfold result
  rw [run, Inquiry.run_bind]
  rfl

theorem queries_adapt (wrap : δ → ε) (lookup : Lookup δ α) :
    Lookup.queries (lookup.adapt wrap) server earlier = lookup.queries server earlier := by
  have run : (lookup.adapt wrap).run = lookup.run >>= fun outcome =>
      pure (outcome.mapError wrap) := rfl
  unfold queries
  rw [run, Inquiry.run_bind]
  simp

end Database.Lookup

/-! ## References -/

/-- The reference that a srid resolves to has that srid. -/
theorem resolveSrid_srid {srid : Int32} {server : Server} {earlier : List String}
    {reference : SpatialReference}
    (resolved : (SpatialReference.resolveSrid srid).result server earlier = .ok reference) :
    reference.srid = srid := by
  unfold SpatialReference.resolveSrid at resolved
  split at resolved
  next unset =>
    cases resolved
    rw [unset]
    rfl
  · obtain ⟨rows, -, resolved⟩ := Lookup.result_bind_eq_ok.mp resolved
    split at resolved
    next row =>
      rw [readCells, Lookup.result_liftExcept, mapError_eq_ok] at resolved
      exact (Row.ofCells_eq_ok_iff.mp resolved).srid_eq
    · cases resolved

/-- The reference is what some srid resolves to, after whatever queries. -/
def SpatialReference.IsResolved (server : Server) (reference : SpatialReference) : Prop :=
  ∃ srid earlier, (resolveSrid srid).result server earlier = .ok reference

theorem unset_isResolved (server : Server) : SpatialReference.unset.IsResolved server :=
  ⟨unsetSrid, [], rfl⟩

end SpatialFilter
