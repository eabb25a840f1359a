import SpatialFilter.Filter.Error

/-!
# Drafts

A draft collects the SQL text of a filter and the first error met on the way.  Its text is
handed out only when there is no error, so that a fragment which was built past an error never
reaches the database.
-/

namespace SpatialFilter

/-- The SQL text so far and the first error so far. -/
structure Draft where
  sql : String
  error : Option FilterError
  deriving DecidableEq, Repr

namespace Draft

def empty : Draft :=
  ⟨"", none⟩

def append (draft : Draft) (text : String) : Draft :=
  { draft with sql := draft.sql ++ text }

/-- Notes an error, unless one has been noted before. -/
def note (draft : Draft) (error : FilterError) : Draft :=
  { draft with error := some (draft.error.getD error) }

def isFaulty (draft : Draft) : Bool :=
  draft.error.isSome

/-- The text, unless an error has been noted. -/
def predicate (draft : Draft) : Except FilterError String :=
  match draft.error with
  | some error => .error error
  | none => .ok draft.sql

end Draft

/-- A compilation that works on a draft.  What it has put into the draft stays there when it
fails later. -/
abbrev Drafting := ExceptT (Interruption FilterError) (StateM Draft)

namespace Drafting

def append (text : String) : Drafting Unit :=
  modify fun draft => draft.append text

def note (error : FilterError) : Drafting Unit :=
  modify fun draft => draft.note error

/-- A result that is known without the draft. -/
def ofOutcome {α : Type} (outcome : Outcome α) : Drafting α :=
  ExceptT.mk (pure outcome)

end Drafting

end SpatialFilter
