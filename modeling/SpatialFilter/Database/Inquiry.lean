import SpatialFilter.Database.Row

/-!
# Inquiries

An inquiry is a computation that may put queries to a database and go on with the answers.
It is data: what it asks can be seen without running it, and it can be run against any
database.  A database may let its answer depend on what it was asked before.
-/

namespace SpatialFilter.Database

/-- What a database says to a query. -/
abbrev Reply := Except QueryError (List Row)

/-- A database: its reply to a query, given the earlier queries in order. -/
structure Server where
  reply : (earlier : List String) → (query : String) → Reply

/-- A computation that may ask a database. -/
inductive Inquiry (α : Type) where
  | done (value : α)
  | ask (query : String) (next : Reply → Inquiry α)

namespace Inquiry

/-- Goes on with the value that an inquiry ends in. -/
def bind {α β : Type} : Inquiry α → (α → Inquiry β) → Inquiry β
  | .done value, next => next value
  | .ask query rest, next => .ask query fun reply => (rest reply).bind next

instance : Monad Inquiry where
  pure := .done
  bind := bind

/-- The value of an inquiry and the queries it put, in order. -/
def run {α : Type} (server : Server) (earlier : List String) : Inquiry α → α × List String
  | .done value => (value, [])
  | .ask query next =>
    let (value, queries) := (next (server.reply earlier query)).run server (earlier ++ [query])
    (value, query :: queries)

@[simp]
theorem run_pure {α : Type} (server : Server) (earlier : List String) (value : α) :
    (pure value : Inquiry α).run server earlier = (value, []) := rfl

/-- A sequence of two inquiries puts the queries of the first, then those of the second. -/
theorem run_bind {α β : Type} (server : Server) (inquiry : Inquiry α) (next : α → Inquiry β)
    (earlier : List String) :
    (inquiry >>= next).run server earlier =
      (((next (inquiry.run server earlier).1).run server
          (earlier ++ (inquiry.run server earlier).2)).1,
        (inquiry.run server earlier).2 ++
          ((next (inquiry.run server earlier).1).run server
            (earlier ++ (inquiry.run server earlier).2)).2) := by
  induction inquiry generalizing earlier with
  | done value => simp [Bind.bind, bind, run]
  | ask query rest ih =>
    simp only [Bind.bind] at ih
    simp [Bind.bind, bind, run, ih]

end Inquiry

/-- An inquiry that may fail. -/
abbrev Lookup (ε : Type) := ExceptT ε Inquiry

/-- Puts one query; what the database refuses becomes an error of the lookup. -/
def query {ε : Type} (wrap : QueryError → ε) (text : String) : Lookup ε (List Row) :=
  ExceptT.mk (.ask text fun reply => .done (reply.mapError wrap))

/-- A result that is known without asking, with its error turned into one of the lookup. -/
def liftExcept {ε δ α : Type} (wrap : δ → ε) (result : Except δ α) : Lookup ε α :=
  ExceptT.mk (.done (result.mapError wrap))

end SpatialFilter.Database
