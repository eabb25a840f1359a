import SpatialFilter.Database.Memory
import SpatialFilter.Proofs.LookupResults

/-!
# How lookups end

A lookup by srid or by authority and code puts one query, and the reply decides how it ends
(`IsDecidedBy`): an answer of other than one row means that there is no entry, one row with the
cells that are needed gives the reference, and everything else is a failure of the engine.  The
database may reply as it likes.  A list of labels is looked up from its first srid on, until a
lookup fails (`AsksInOrder`).
-/

namespace SpatialFilter

open SpatialFilter.Number
open SpatialFilter.Database

variable {server : Server} {earlier : List String}

/-! ## Lookups of one row -/

/-- The lookup puts one query.  On an answer of other than one row it fails with the error for
missing entries, and with no such error on any other reply.  It gives the reference that the only
row holds.  Where the database refuses or the only row holds no reference, the engine failed. -/
structure IsDecidedBy (lookup : ReferenceLookup SpatialReference) (server : Server)
    (earlier : List String) (query : String) (missing : ReferenceError)
    (Holds : Row → SpatialReference → Prop) : Prop where
  queries_eq : lookup.queries server earlier = [query]
  missing_iff : ∀ error,
    (Lookup.result lookup server earlier = .error error ∧ error.isMissing = true) ↔
      error = missing ∧ ∃ rows, server.reply earlier query = .ok rows ∧ rows.length ≠ 1
  found_iff : ∀ reference, Lookup.result lookup server earlier = .ok reference ↔
    ∃ row, server.reply earlier query = .ok [row] ∧ Holds row reference
  failed_iff : (∃ error, Lookup.result lookup server earlier = .error (.engine error)) ↔
    (∃ error, server.reply earlier query = .error error) ∨
      ∃ row, server.reply earlier query = .ok [row] ∧ ∀ reference, ¬ Holds row reference

namespace SpatialReference

/-- Takes the only row in the answer to a query. -/
def takeRow (query : String) (missing : ReferenceError)
    (read : Row → Except QueryError SpatialReference) : ReferenceLookup SpatialReference := do
  match ← Database.query .engine query with
  | [row] => readCells (read row)
  | _ => throw missing

theorem resolveCode_eq_takeRow (authority : String) (code : Int32) :
    resolveCode authority code =
      takeRow (queryByCode authority code) (.missingCode authority code)
        (ofCodeRow authority code) := rfl

theorem resolveSrid_eq_takeRow {srid : Int32} (given : srid ≠ unsetSrid) :
    resolveSrid srid =
      takeRow (queryBySrid srid) (.missingSrid srid) fun row => ofCells srid row 0 := by
  rw [resolveSrid, if_neg given]
  rfl

theorem takeRow_queries (query : String) (missing : ReferenceError)
    (read : Row → Except QueryError SpatialReference) :
    (takeRow query missing read).queries server earlier = [query] := by
  unfold takeRow
  rw [Lookup.queries_bind, Lookup.result_query, Lookup.queries_query]
  cases server.reply earlier query with
  | error error => rfl
  | ok rows =>
    dsimp only [Except.mapError]
    split <;> rfl

/-- The ways in which taking the only row can end, each with the reply that it belongs to. -/
inductive RowEnding (missing : ReferenceError) (Holds : Row → SpatialReference → Prop) :
    Reply → Except ReferenceError SpatialReference → Prop
  | refused (error : QueryError) : RowEnding missing Holds (.error error) (.error (.engine error))
  | counted {rows : List Row} (other : rows.length ≠ 1) :
    RowEnding missing Holds (.ok rows) (.error missing)
  | found {row : Row} {reference : SpatialReference} (holds : Holds row reference) :
    RowEnding missing Holds (.ok [row]) (.ok reference)
  | unread {row : Row} (error : QueryError) (without : ∀ reference, ¬ Holds row reference) :
    RowEnding missing Holds (.ok [row]) (.error (.engine error))

variable {missing : ReferenceError} {Holds : Row → SpatialReference → Prop}

/-- Whatever the database replies, taking the only row ends in one of these ways. -/
theorem takeRow_ending (query : String) (missing : ReferenceError)
    {read : Row → Except QueryError SpatialReference}
    (read_iff : ∀ row reference, read row = .ok reference ↔ Holds row reference) :
    RowEnding missing Holds (server.reply earlier query)
      ((takeRow query missing read).result server earlier) := by
  unfold takeRow
  rw [Lookup.result_bind, Lookup.result_query]
  cases server.reply earlier query with
  | error error => exact .refused error
  | ok rows =>
    dsimp only [Except.mapError]
    split
    next row =>
      rw [readCells, Lookup.result_liftExcept]
      cases taken : read row with
      | ok reference => exact .found ((read_iff row reference).mp taken)
      | error error =>
        apply RowEnding.unread
        intro reference holds
        rw [(read_iff row reference).mpr holds] at taken
        cases taken
    next other =>
      apply RowEnding.counted
      intro single
      obtain ⟨row, rfl⟩ := List.length_eq_one_iff.mp single
      exact other row rfl

namespace RowEnding

variable {reply : Reply} {result : Except ReferenceError SpatialReference}

theorem missing_iff (ending : RowEnding missing Holds reply result)
    (is_missing : missing.isMissing = true) (error : ReferenceError) :
    (result = .error error ∧ error.isMissing = true) ↔
      error = missing ∧ ∃ rows, reply = .ok rows ∧ rows.length ≠ 1 := by
  constructor
  · intro ended
    obtain ⟨result_eq, found⟩ := ended
    cases ending with
    | counted other =>
      cases result_eq
      exact ⟨rfl, _, rfl, other⟩
    | found holds => cases result_eq
    | refused failure | unread failure without =>
      cases result_eq
      cases found
  · intro ended
    obtain ⟨rfl, rows, answered, other⟩ := ended
    cases ending with
    | refused failure => cases answered
    | counted => exact ⟨rfl, is_missing⟩
    | found holds | unread failure without =>
      cases answered
      exact absurd rfl other

theorem found_iff (ending : RowEnding missing Holds reply result)
    (unique : ∀ {row one other}, Holds row one → Holds row other → one = other)
    (reference : SpatialReference) :
    result = .ok reference ↔ ∃ row, reply = .ok [row] ∧ Holds row reference := by
  constructor
  · intro result_eq
    cases ending with
    | found holds =>
      cases result_eq
      exact ⟨_, rfl, holds⟩
    | refused failure | counted other | unread failure without => cases result_eq
  · intro ended
    obtain ⟨row, answered, holds⟩ := ended
    cases ending with
    | refused failure => cases answered
    | counted other =>
      cases answered
      exact absurd rfl other
    | found others =>
      cases answered
      rw [unique others holds]
    | unread failure without =>
      cases answered
      exact absurd holds (without reference)

theorem failed_iff (ending : RowEnding missing Holds reply result)
    (is_missing : missing.isMissing = true) :
    (∃ error, result = .error (.engine error)) ↔
      (∃ error, reply = .error error) ∨
        ∃ row, reply = .ok [row] ∧ ∀ reference, ¬ Holds row reference := by
  cases ending with
  | refused failure => simp
  | counted other =>
    constructor
    · intro ended
      obtain ⟨failure, result_eq⟩ := ended
      cases result_eq
      cases is_missing
    · intro ended
      rcases ended with ⟨failure, refused⟩ | ⟨row, answered, -⟩
      · cases refused
      · cases answered
        exact absurd rfl other
  | found holds =>
    constructor
    · intro ended
      obtain ⟨failure, result_eq⟩ := ended
      cases result_eq
    · intro ended
      rcases ended with ⟨failure, refused⟩ | ⟨row, answered, without⟩
      · cases refused
      · cases answered
        exact absurd holds (without _)
  | unread failure without =>
    exact ⟨fun _ => .inr ⟨_, rfl, without⟩, fun _ => ⟨failure, rfl⟩⟩

end RowEnding

/-- The reply alone decides how taking the only row ends. -/
theorem takeRow_isDecidedBy {query : String} {read : Row → Except QueryError SpatialReference}
    (is_missing : missing.isMissing = true)
    (read_iff : ∀ row reference, read row = .ok reference ↔ Holds row reference) :
    IsDecidedBy (takeRow query missing read) server earlier query missing Holds := by
  have ending : RowEnding missing Holds (server.reply earlier query)
      ((takeRow query missing read).result server earlier) :=
    takeRow_ending query missing read_iff
  have unique : ∀ {row one other}, Holds row one → Holds row other → one = other := by
    intro row one other holds_one holds_other
    have same := (read_iff row one).mpr holds_one
    rw [(read_iff row other).mpr holds_other] at same
    cases same
    rfl
  exact ⟨takeRow_queries query missing read, ending.missing_iff is_missing,
    ending.found_iff unique, ending.failed_iff is_missing⟩

theorem resolveSrid_ending {srid : Int32} (given : srid ≠ unsetSrid) :
    RowEnding (.missingSrid srid) (Row.DescribesSrid srid 0)
      (server.reply earlier (queryBySrid srid)) ((resolveSrid srid).result server earlier) := by
  rw [resolveSrid_eq_takeRow given]
  exact takeRow_ending _ _ fun _ _ => Row.ofCells_eq_ok_iff

theorem resolveSrid_isDecidedBy {srid : Int32} (given : srid ≠ unsetSrid) :
    IsDecidedBy (resolveSrid srid) server earlier (queryBySrid srid) (.missingSrid srid)
      (Row.DescribesSrid srid 0) := by
  rw [resolveSrid_eq_takeRow given]
  exact takeRow_isDecidedBy rfl fun _ _ => Row.ofCells_eq_ok_iff

theorem resolveCode_isDecidedBy (authority : String) (code : Int32) :
    IsDecidedBy (resolveCode authority code) server earlier (queryByCode authority code)
      (.missingCode authority code) (Row.DescribesCode authority code) := by
  rw [resolveCode_eq_takeRow]
  exact takeRow_isDecidedBy rfl fun _ _ => Row.ofCodeRow_eq_ok_iff

/-! ## Names -/

theorem resolveSrid_ne_unknownName (srid : Int32) (name : String) :
    (resolveSrid srid).result server earlier ≠ .error (.unknownName name) := by
  by_cases unset_srid : srid = unsetSrid
  · rw [unset_srid]
    exact nofun
  · have ending := @resolveSrid_ending server earlier srid unset_srid
    intro unknown
    rw [unknown] at ending
    generalize server.reply earlier (queryBySrid srid) = reply at ending
    cases ending

/-- A name is unknown exactly when it gives no srid. -/
theorem resolveName_unknown_iff (name : String) :
    (resolveName name).result server earlier = .error (.unknownName name) ↔
      sridOfName? name = none := by
  unfold resolveName
  cases sridOfName? name with
  | none => exact ⟨fun _ => rfl, fun _ => rfl⟩
  | some srid => simpa using resolveSrid_ne_unknownName srid name

theorem resolveName_of_srid {name : String} {srid : Int32} (named : sridOfName? name = some srid) :
    resolveName name = resolveSrid srid := by
  simp [resolveName, named]

/-! ## Lists of labels -/

/-- What the lookup of the label at a position of a list gives, after those for the srids in front
of it. -/
def labelOutcome? (server : Server) (earlier : List String) (srids : List Int32) (index : Nat) :
    Option (Except ReferenceError (Option String)) :=
  srids[index]?.map fun srid =>
    (label? srid).result server (earlier ++ (srids.take index).map queryLabel)

/-- A lookup of several labels puts the query for one after the other, up to the first that fails.
If none fails, there is a text for each srid, which is empty where the srid has no label. -/
structure AsksInOrder (server : Server) (earlier : List String) (srids : List Int32) : Prop where
  fails_iff : (∃ error, (labels srids).result server earlier = .error error) ↔
    ∃ index error, labelOutcome? server earlier srids index = some (.error error)
  first_failure : ∀ error, (labels srids).result server earlier = .error error →
    ∃ index, labelOutcome? server earlier srids index = some (.error error) ∧
      (∀ before < index, ∃ label, labelOutcome? server earlier srids before = some (.ok label)) ∧
      (labels srids).queries server earlier = (srids.take (index + 1)).map queryLabel
  each_label : ∀ texts, (labels srids).result server earlier = .ok texts →
    texts.length = srids.length ∧
      (∀ index text, texts[index]? = some text →
        ∃ label, labelOutcome? server earlier srids index = some (.ok label) ∧
          text = label.getD "") ∧
      (labels srids).queries server earlier = srids.map queryLabel

theorem label_queries (srid : Int32) :
    (label? srid).queries server earlier = [queryLabel srid] := by
  unfold label?
  rw [Lookup.queries_bind, Lookup.result_query, Lookup.queries_query]
  cases server.reply earlier (queryLabel srid) with
  | error error => rfl
  | ok rows =>
    dsimp only [Except.mapError]
    split <;> rfl

/-- A label is what the only row has in its first cell, NULL included, and missing where there are
more rows or none. -/
theorem label_eq_ok_iff (srid : Int32) (label : Option String) :
    (label? srid).result server earlier = .ok label ↔
      (∃ rows, server.reply earlier (queryLabel srid) = .ok rows ∧ rows.length ≠ 1 ∧ label = none) ∨
        ∃ row, server.reply earlier (queryLabel srid) = .ok [row] ∧
          row.cells[0]? = some label := by
  unfold label?
  rw [Lookup.result_bind, Lookup.result_query]
  cases server.reply earlier (queryLabel srid) with
  | error error =>
    constructor
    · intro given
      cases given
    · intro ended
      rcases ended with ⟨rows, answered, -⟩ | ⟨row, answered, -⟩
      · cases answered
      · cases answered
  | ok rows =>
    dsimp only [Except.mapError]
    split
    next row =>
      rw [readCells, Lookup.result_liftExcept, mapError_eq_ok, Row.optionalText_eq_ok_iff]
      simp
    next other =>
      have several : rows.length ≠ 1 := by
        intro single
        obtain ⟨row, rfl⟩ := List.length_eq_one_iff.mp single
        exact other row rfl
      have no_row : ∀ row, rows ≠ [row] := fun row same => other row same
      simp [Lookup.result_pure, several, no_row, eq_comm]

/-- The rest of a list is looked up only behind a label that was found or is missing. -/
theorem labels_result_cons (srid : Int32) (rest : List Int32) :
    (labels (srid :: rest)).result server earlier =
      match (label? srid).result server earlier with
      | .error error => .error error
      | .ok label =>
        ((labels rest).result server (earlier ++ [queryLabel srid])).map
          fun others => label.getD "" :: others := by
  rw [labels, Lookup.result_bind, label_queries]
  cases (label? srid).result server earlier with
  | error error => rfl
  | ok label =>
    dsimp only
    rw [Lookup.result_bind]
    cases (labels rest).result server (earlier ++ [queryLabel srid]) <;> rfl

theorem labels_queries_cons (srid : Int32) (rest : List Int32) :
    (labels (srid :: rest)).queries server earlier =
      queryLabel srid ::
        match (label? srid).result server earlier with
        | .error _ => []
        | .ok _ => (labels rest).queries server (earlier ++ [queryLabel srid]) := by
  rw [labels, Lookup.queries_bind, label_queries, List.singleton_append]
  cases (label? srid).result server earlier with
  | error error => rfl
  | ok label =>
    dsimp only
    rw [Lookup.queries_bind]
    cases (labels rest).result server (earlier ++ [queryLabel srid]) <;>
      simp [Lookup.queries_pure]

theorem labelOutcome_zero (srid : Int32) (rest : List Int32) :
    labelOutcome? server earlier (srid :: rest) 0 = some ((label? srid).result server earlier) := by
  simp [labelOutcome?]

theorem labelOutcome_succ (srid : Int32) (rest : List Int32) (index : Nat) :
    labelOutcome? server earlier (srid :: rest) (index + 1) =
      labelOutcome? server (earlier ++ [queryLabel srid]) rest index := by
  simp [labelOutcome?]

theorem lt_of_labelOutcome {srids : List Int32} {index : Nat}
    {outcome : Except ReferenceError (Option String)}
    (here : labelOutcome? server earlier srids index = some outcome) : index < srids.length := by
  obtain ⟨srid, at_index, -⟩ := Option.map_eq_some_iff.mp here
  exact (List.getElem?_eq_some_iff.mp at_index).1

/-- The two ways in which a lookup of several labels ends, each with the queries that it puts. -/
inductive LabelsEnding (server : Server) (earlier : List String) (srids : List Int32) :
    Except ReferenceError (List String) → List String → Prop
  | failed {index : Nat} {error : ReferenceError}
    (here : labelOutcome? server earlier srids index = some (.error error))
    (first : ∀ before < index, ∃ label,
      labelOutcome? server earlier srids before = some (.ok label)) :
    LabelsEnding server earlier srids (.error error) ((srids.take (index + 1)).map queryLabel)
  | given {texts : List String} (length : texts.length = srids.length)
    (each : ∀ index text, texts[index]? = some text → ∃ label,
      labelOutcome? server earlier srids index = some (.ok label) ∧ text = label.getD "") :
    LabelsEnding server earlier srids (.ok texts) (srids.map queryLabel)

/-- Labels are looked up to the first failure or to the end of the list. -/
theorem labels_ending (earlier : List String) (srids : List Int32) :
    LabelsEnding server earlier srids ((labels srids).result server earlier)
      ((labels srids).queries server earlier) := by
  induction srids generalizing earlier with
  | nil => exact .given rfl (by simp)
  | cons srid rest ih =>
    rw [labels_result_cons, labels_queries_cons]
    have zero := @labelOutcome_zero server earlier srid rest
    have succ := @labelOutcome_succ server earlier srid rest
    cases here : (label? srid).result server earlier with
    | error error =>
      rw [here] at zero
      exact .failed zero nofun
    | ok label =>
      rw [here] at zero
      have later := ih (earlier ++ [queryLabel srid])
      dsimp only
      generalize (labels rest).result server (earlier ++ [queryLabel srid]) = result at later ⊢
      generalize (labels rest).queries server (earlier ++ [queryLabel srid]) = queries at later ⊢
      cases later with
      | failed there first =>
        apply LabelsEnding.failed (succ _ ▸ there)
        intro before earlier_index
        cases before with
        | zero => exact ⟨label, zero⟩
        | succ before =>
          rw [succ]
          exact first before (by omega)
      | given length each =>
        apply LabelsEnding.given
        · simpa using length
        · intro index text at_index
          cases index with
          | zero =>
            simp only [List.getElem?_cons_zero, Option.some.injEq] at at_index
            exact ⟨label, zero, at_index.symm⟩
          | succ index =>
            rw [succ]
            exact each index text (by simpa using at_index)

theorem labels_asksInOrder (srids : List Int32) : AsksInOrder server earlier srids := by
  have ending := @labels_ending server earlier srids
  generalize result_eq : (labels srids).result server earlier = result at ending
  generalize queries_eq : (labels srids).queries server earlier = queries at ending
  cases ending with
  | failed here first =>
    constructor
    · exact ⟨fun _ => ⟨_, _, here⟩, fun _ => ⟨_, result_eq⟩⟩
    · intro error failed
      rw [result_eq] at failed
      cases failed
      exact ⟨_, here, first, queries_eq⟩
    · intro texts given
      rw [result_eq] at given
      cases given
  | @given texts length each =>
    constructor
    · constructor
      · intro ended
        obtain ⟨error, failed⟩ := ended
        rw [result_eq] at failed
        cases failed
      · intro ended
        obtain ⟨index, error, here⟩ := ended
        have inside : index < texts.length := length ▸ lt_of_labelOutcome here
        obtain ⟨label, found, -⟩ := each index _ (List.getElem?_eq_getElem inside)
        rw [here] at found
        cases found
    · intro error failed
      rw [result_eq] at failed
      cases failed
    · intro found given
      rw [result_eq] at given
      cases given
      exact ⟨length, each, queries_eq⟩

/-- How lookups end, whatever the database replies.  The unset srid is resolved without a query, and
every other srid, as every authority and code, by one query whose reply decides the end.  A name is
refused without a query exactly when it gives no srid, and is otherwise looked up as that srid.
A label is decided by the reply to its query as well, and several labels are asked for in order up
to the first failure. -/
theorem replies_decide_lookups (server : Server) (earlier : List String) :
    ((resolveSrid unsetSrid).result server earlier = .ok unset ∧
        (resolveSrid unsetSrid).queries server earlier = []) ∧
      (∀ srid, srid ≠ unsetSrid →
        IsDecidedBy (resolveSrid srid) server earlier (queryBySrid srid) (.missingSrid srid)
          (Row.DescribesSrid srid 0)) ∧
      (∀ authority code,
        IsDecidedBy (resolveCode authority code) server earlier (queryByCode authority code)
          (.missingCode authority code) (Row.DescribesCode authority code)) ∧
      (∀ name,
        ((resolveName name).result server earlier = .error (.unknownName name) ↔
          sridOfName? name = none) ∧
        (sridOfName? name = none → (resolveName name).queries server earlier = []) ∧
        ∀ srid, sridOfName? name = some srid → resolveName name = resolveSrid srid) ∧
      (∀ srid, (label? srid).queries server earlier = [queryLabel srid] ∧
        ∀ label, (label? srid).result server earlier = .ok label ↔
          (∃ rows, server.reply earlier (queryLabel srid) = .ok rows ∧ rows.length ≠ 1 ∧
            label = none) ∨
            ∃ row, server.reply earlier (queryLabel srid) = .ok [row] ∧
              row.cells[0]? = some label) ∧
      ∀ srids, AsksInOrder server earlier srids := by
  refine ⟨⟨rfl, rfl⟩, ?_, resolveCode_isDecidedBy, ?_, ?_, labels_asksInOrder⟩
  · intro srid given
    exact resolveSrid_isDecidedBy given
  · intro name
    refine ⟨resolveName_unknown_iff name, ?_, fun srid => resolveName_of_srid⟩
    intro unnamed
    simp only [resolveName, unnamed]
    rfl
  · intro srid
    exact ⟨label_queries srid, label_eq_ok_iff srid⟩

/-! ## A doubled entry and a refused query -/

/-- A database with two entries for one srid, which refuses queries for another. -/
def faultyServer : Server :=
  (Memory.mk [⟨4326, "EPSG", 4326, none⟩, ⟨4326, "EPSG", 4326, none⟩]
    [⟨"srid=7", .error (.failed "timeout")⟩]).server

/-- The doubled entry is missing under its name, and the refusal is a failure of the engine. -/
theorem doubled_entry_is_missing :
    (resolveName "EPSG:4326").result faultyServer [] = .error (.missingSrid 4326) ∧
      ∃ error, (resolveSrid 7).result faultyServer [] = .error (.engine error) := by
  obtain ⟨-, by_srid, -, by_name, -⟩ := replies_decide_lookups faultyServer []
  have doubled := by_srid 4326 (by decide)
  have refused := by_srid 7 (by decide)
  have named := (by_name "EPSG:4326").2.2 4326 (by decide +kernel)
  have twice : faultyServer.reply [] (queryBySrid 4326) =
      .ok [⟨[some "EPSG", some "4326", none]⟩, ⟨[some "EPSG", some "4326", none]⟩] :=
    eq_ok_of_toOption (by decide +kernel)
  have missing := ((doubled.missing_iff (.missingSrid 4326)).mpr ⟨rfl, _, twice, by decide⟩).1
  have failing : faultyServer.reply [] (queryBySrid 7) = .error (.failed "timeout") := rfl
  exact ⟨named ▸ missing, refused.failed_iff.mpr (.inl ⟨_, failing⟩)⟩

end SpatialReference

end SpatialFilter
