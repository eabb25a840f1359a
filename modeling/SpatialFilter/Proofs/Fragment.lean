import SpatialFilter.Filter.Compile
import SpatialFilter.Proofs.Numerals
import SpatialFilter.Proofs.NumberText
import SpatialFilter.Proofs.Results

/-!
# What an operator adds to a draft

The compilation of an operator works on the draft at hand, and for a distance it notes an
unsupported unit before it writes the limit.  Writing the limit is the only step that can still
fail after a note, and a limit in an unsupported unit is a number that was read from the request
and hence finite.  So an operator either adds one complete fragment or leaves the draft alone
(`compileOperator_run`), and what it adds can be told without the draft.
-/

namespace SpatialFilter

open SpatialFilter.Number
open SpatialFilter.Markup

theorem ofExcept_eq_ok {α : Type} {result : Except FilterError α} {value : α} :
    Outcome.ofExcept result = .ok value ↔ result = .ok value :=
  mapError_eq_ok

/-- The SQL of one operator. -/
structure Fragment where
  sql : String
  /-- The unit of a distance that was taken for metres because it is not supported. -/
  unsupportedUnit : Option String

namespace Context

/-- A comparison with its limit written out. -/
def comparisonFragment (comparison : Comparison) : Outcome Fragment := do
  let limit ← rendered (Sql.number comparison.meters)
  return ⟨comparison.left ++ limit, comparison.unsupportedUnit⟩

/-- What an operator element adds to any draft. -/
def fragment (context : Context) (layer : String) (element : Element) : Outcome Fragment :=
  match SpatialOperator.ofName? element.name with
  | none => Outcome.fail (.unknownOperator element.name)
  | some operator =>
    match operator.family with
    | .topological predicate => do
      return ⟨← context.topologicalSql layer operator predicate element.elements, none⟩
    | .distance comparator => do
      comparisonFragment (← context.comparison layer operator comparator element.elements)
    | .box => do return ⟨← context.boxSql layer element.elements, none⟩

/-- How the fragment of an operator comes about, family by family. -/
inductive Builds (context : Context) (layer : String) (element : Element) : Fragment → Prop
  | topological (operator : SpatialOperator) (predicate sql : String)
      (named : SpatialOperator.ofName? element.name = some operator)
      (family : operator.family = .topological predicate)
      (compiled : context.topologicalSql layer operator predicate element.elements = .ok sql) :
      Builds context layer element ⟨sql, none⟩
  | distance (operator : SpatialOperator) (comparator : String) (comparison : Comparison)
      (fragment : Fragment) (named : SpatialOperator.ofName? element.name = some operator)
      (family : operator.family = .distance comparator)
      (compared : context.comparison layer operator comparator element.elements = .ok comparison)
      (written : comparisonFragment comparison = .ok fragment) :
      Builds context layer element fragment
  | box (operator : SpatialOperator) (sql : String)
      (named : SpatialOperator.ofName? element.name = some operator)
      (family : operator.family = .box)
      (compiled : context.boxSql layer element.elements = .ok sql) :
      Builds context layer element ⟨sql, none⟩

/-- An element has a fragment exactly when it is an operator whose parts are complete. -/
theorem fragment_eq_ok_iff {context : Context} {layer : String} {element : Element}
    {fragment : Fragment} :
    context.fragment layer element = .ok fragment ↔ context.Builds layer element fragment := by
  unfold Context.fragment
  constructor
  · intro complete
    cases named : SpatialOperator.ofName? element.name with
    | none => simp only [named] at complete; cases complete
    | some operator =>
      simp only [named] at complete
      cases family : operator.family with
      | topological predicate =>
        simp only [family] at complete
        obtain ⟨sql, compiled, complete⟩ := bind_eq_ok.mp complete
        cases complete
        exact .topological operator predicate sql named family compiled
      | distance comparator =>
        simp only [family] at complete
        obtain ⟨comparison, compared, written⟩ := bind_eq_ok.mp complete
        exact .distance operator comparator comparison fragment named family compared written
      | box =>
        simp only [family] at complete
        obtain ⟨sql, compiled, complete⟩ := bind_eq_ok.mp complete
        cases complete
        exact .box operator sql named family compiled
  · intro built
    cases built with
    | topological operator predicate sql named family compiled =>
      simp only [named, family]
      exact bind_eq_ok.mpr ⟨sql, compiled, rfl⟩
    | distance operator comparator comparison _ named family compared written =>
      simp only [named, family]
      exact bind_eq_ok.mpr ⟨comparison, compared, written⟩
    | box operator sql named family compiled =>
      simp only [named, family]
      exact bind_eq_ok.mpr ⟨sql, compiled, rfl⟩

end Context

/-- The draft with a fragment, and with a note on the unit if it is not supported. -/
def Draft.addFragment (draft : Draft) (fragment : Fragment) : Draft :=
  match fragment.unsupportedUnit with
  | some unit => (draft.note (.unsupportedUnit unit)).append fragment.sql
  | none => draft.append fragment.sql

/-! ## What the parts are made of -/

/-- The SQL of a column that is converted to a srid, if to any. -/
def conversionSql (column : String) : Option Int32 → String
  | some srid => "st_transform(" ++ column ++ "," ++ int32Text srid ++ ")"
  | none => column

@[simp]
theorem conversionSql_some (column : String) (srid : Int32) :
    conversionSql column (some srid) = "st_transform(" ++ column ++ "," ++ int32Text srid ++ ")" :=
  rfl

@[simp]
theorem conversionSql_none (column : String) : conversionSql column none = column := rfl

section Parts

variable {context : Context} {layer : String} {operator : SpatialOperator} {sql : String}

theorem convertedColumn_eq_ok_iff {operand : Option Element} :
    context.convertedColumn layer operator operand = .ok sql ↔
      ∃ column conversion, context.operandColumn layer operator operand = .ok column ∧
        context.conversionSrid layer = .ok conversion ∧ sql = conversionSql column conversion := by
  unfold Context.convertedColumn
  simp only [bind_eq_ok]
  constructor
  · rintro ⟨column, resolved, conversion, converts, written⟩
    refine ⟨column, conversion, resolved, converts, ?_⟩
    cases conversion <;> cases written <;> rfl
  · rintro ⟨column, conversion, resolved, converts, rfl⟩
    refine ⟨column, resolved, conversion, converts, ?_⟩
    cases conversion <;> rfl

theorem topologicalSql_eq_ok_iff {predicate : String} {operands : List Element} :
    context.topologicalSql layer operator predicate operands = .ok sql ↔
      ∃ column geometry, context.convertedColumn layer operator operands[0]? = .ok column ∧
        context.comparedOperand layer operator operands[1]? = .ok geometry ∧
        predicate ++ "(" ++ column ++ "," ++ geometry ++ ")" = sql := by
  unfold Context.topologicalSql
  simp only [bind_eq_ok, pure, Except.pure, Except.ok.injEq, exists_and_left]

theorem boxSql_eq_ok_iff {operands : List Element} :
    context.boxSql layer operands = .ok sql ↔
      ∃ column envelope, context.convertedColumn layer .box operands[0]? = .ok column ∧
        context.boxOperand layer operands[1]? = .ok envelope ∧
        "st_intersects(" ++ column ++ "," ++ envelope ++ ")" = sql := by
  unfold Context.boxSql
  simp only [bind_eq_ok, pure, Except.pure, Except.ok.injEq, exists_and_left]

theorem comparison_eq_ok_iff {comparator : String} {operands : List Element}
    {comparison : Comparison} :
    context.comparison layer operator comparator operands = .ok comparison ↔
      ∃ metric, context.catalog.isMetric layer = (.ok metric : Outcome Bool) ∧
        ∃ column geometry,
          context.operandColumn layer operator operands[0]? = .ok column ∧
          context.measuredOperand operator operands[1]? = .ok geometry ∧
          Context.limitOperand operator operands[2]? =
            .ok (comparison.meters, comparison.unsupportedUnit) ∧
          (if metric then "ST_Distance" else "ST_Distance_sphere") ++ "(ST_centroid(" ++ column ++
            "),ST_centroid(" ++ geometry ++ ")) " ++ comparator ++ " " = comparison.left := by
  unfold Context.comparison
  simp only [bind_eq_ok]
  constructor
  · rintro ⟨metric, measured, column, resolved, geometry, translated, limit, limited, made⟩
    cases made
    exact ⟨metric, measured, column, geometry, resolved, translated, limited, rfl⟩
  · rintro ⟨metric, measured, column, geometry, resolved, translated, limited, left_eq⟩
    refine ⟨metric, measured, column, resolved, geometry, translated, _, limited, ?_⟩
    rw [left_eq]
    rfl

theorem comparisonFragment_eq_ok_iff {comparison : Comparison} {fragment : Fragment} :
    Context.comparisonFragment comparison = .ok fragment ↔
      comparison.meters.isFinite = true ∧
        ⟨comparison.left ++ comparison.meters.text, comparison.unsupportedUnit⟩ = fragment := by
  unfold Context.comparisonFragment rendered
  simp only [bind_eq_ok, mapError_eq_ok, number_eq_ok_iff, pure, Except.pure, Except.ok.injEq]
  constructor
  · rintro ⟨_, ⟨finite, rfl⟩, rfl⟩
    exact ⟨finite, rfl⟩
  · rintro ⟨finite, rfl⟩
    exact ⟨_, ⟨finite, rfl⟩, rfl⟩

end Parts

/-! ## Numbers that can be written -/

/-- Only a supported unit has a factor. -/
theorem unitFactor_unsupported {unit : Option String} {name : String}
    (unsupported : (Context.unitFactor unit).2 = some name) :
    (Context.unitFactor unit).1 = none := by
  unfold Context.unitFactor at unsupported ⊢
  split <;> simp_all

/-- A distance is a number in the unit of its element, and without a factor it is that number. -/
theorem readDistance_eq_ok {element : Element} {meters : Binary64} {unit : Option String}
    (read : Context.readDistance element = .ok (meters, unit)) :
    unit = (Context.unitFactor (element.attribute? "units")).2 ∧
      ∃ value, readNumber element.text.toList = .ok value ∧
        ((Context.unitFactor (element.attribute? "units")).1 = none → meters = value) := by
  obtain ⟨value, number, rest⟩ := bind_eq_ok.mp read
  cases factor : (Context.unitFactor (element.attribute? "units")).1 with
  | some factor' =>
    simp only [factor, pure, Except.pure, Except.ok.injEq, Prod.mk.injEq] at rest
    exact ⟨rest.2.symm, value, number, nofun⟩
  | none =>
    simp only [factor, pure, Except.pure, Except.ok.injEq, Prod.mk.injEq] at rest
    exact ⟨rest.2.symm, value, number, fun _ => rest.1.symm⟩

/-- A distance in an unsupported unit is the number as it was read, which is finite. -/
theorem readDistance_unsupported_finite {element : Element} {meters : Binary64} {unit : String}
    (read : Context.readDistance element = .ok (meters, some unit)) : meters.isFinite = true := by
  obtain ⟨unit_eq, value, number, unscaled⟩ := readDistance_eq_ok read
  rw [unscaled (unitFactor_unsupported unit_eq.symm)]
  exact (readNumber_eq_ok.mp number).2

/-- A limit comes from a `Distance` element. -/
theorem limitOperand_eq_ok {operator : SpatialOperator} {operand : Option Element}
    {meters : Binary64} {unit : Option String}
    (limited : Context.limitOperand operator operand = .ok (meters, unit)) :
    ∃ distance, operand = some distance ∧ distance.name = "Distance" ∧
      Context.readDistance distance = .ok (meters, unit) := by
  unfold Context.limitOperand at limited
  split at limited
  next distance found =>
    obtain ⟨present, named⟩ := Option.filter_eq_some_iff.mp found
    refine ⟨distance, present, by simpa using named, ?_⟩
    exact ofExcept_eq_ok.mp limited
  · cases limited

/-- A comparison takes its limit from the third operand. -/
theorem comparison_limit {context : Context} {layer : String} {operator : SpatialOperator}
    {comparator : String} {operands : List Element} {comparison : Comparison}
    (compared : context.comparison layer operator comparator operands = .ok comparison) :
    Context.limitOperand operator operands[2]? =
      .ok (comparison.meters, comparison.unsupportedUnit) := by
  obtain ⟨metric, -, column, geometry, -, -, limited, -⟩ := comparison_eq_ok_iff.mp compared
  exact limited

/-- The limit of a comparison in an unsupported unit can be written. -/
theorem comparison_number {context : Context} {layer : String} {operator : SpatialOperator}
    {comparator : String} {operands : List Element} {comparison : Comparison} {unit : String}
    (compared : context.comparison layer operator comparator operands = .ok comparison)
    (unsupported : comparison.unsupportedUnit = some unit) :
    Sql.number comparison.meters = .ok comparison.meters.text := by
  have limited := comparison_limit compared
  rw [unsupported] at limited
  obtain ⟨distance, -, -, read⟩ := limitOperand_eq_ok limited
  exact number_of_finite (readDistance_unsupported_finite read)

/-! ## Independence of the draft -/

theorem Drafting.run_ofOutcome_bind {α β : Type} (outcome : Outcome α) (next : α → Drafting β)
    (draft : Draft) :
    (Drafting.ofOutcome outcome >>= next).run.run draft =
      match outcome with
      | .ok value => (next value).run.run draft
      | .error interruption => (.error interruption, draft) := by
  cases outcome <;> rfl

/-- How an operator leaves a draft: with its whole fragment, or as it was. -/
def Draft.afterFragment (draft : Draft) : Outcome Fragment → Outcome Unit × Draft
  | .ok fragment => (.ok (), draft.addFragment fragment)
  | .error interruption => (.error interruption, draft)

/-- Adding a comparison is adding its fragment, although its unit is noted before the limit is
written. -/
theorem addComparison_run {context : Context} {layer : String} {operator : SpatialOperator}
    {comparator : String} {operands : List Element} {comparison : Comparison}
    (compared : context.comparison layer operator comparator operands = .ok comparison)
    (draft : Draft) :
    (Context.addComparison comparison).run.run draft =
      draft.afterFragment (Context.comparisonFragment comparison) := by
  unfold Context.addComparison Context.comparisonFragment
  cases unsupported : comparison.unsupportedUnit with
  | none =>
    cases written : Sql.number comparison.meters with
    | error e => rfl
    | ok limit => rfl
  | some unit =>
    -- The note is in the draft before the limit is written, so failing here would show.
    rw [comparison_number compared unsupported]
    rfl

/-- An operator adds its fragment to the draft at hand or leaves the draft as it was, and which
of the two it does is decided without the draft. -/
theorem compileOperator_run (context : Context) (layer : String) (element : Element)
    (draft : Draft) :
    (context.compileOperator layer element).run.run draft =
      draft.afterFragment (context.fragment layer element) := by
  unfold Context.compileOperator Context.fragment
  cases SpatialOperator.ofName? element.name with
  | none => rfl
  | some operator =>
    cases family : operator.family with
    | topological predicate =>
      simp only [family, Drafting.run_ofOutcome_bind]
      cases context.topologicalSql layer operator predicate element.elements <;> rfl
    | distance comparator =>
      simp only [family, Drafting.run_ofOutcome_bind]
      cases compared : context.comparison layer operator comparator element.elements with
      | error interruption => rfl
      | ok comparison => exact addComparison_run compared draft
    | box =>
      simp only [family, Drafting.run_ofOutcome_bind]
      cases context.boxSql layer element.elements <;> rfl

/-- The draft and the result of an operator, from its fragment.  A failure is noted; a layer that
the service does not have is not. -/
theorem addOperator_eq (context : Context) (layer : String) (draft : Draft) (element : Element) :
    draft.addOperator context layer element =
      match context.fragment layer element with
      | .ok fragment => (draft.addFragment fragment, .ok ())
      | .error (.failed error) => (draft.note error, .error (.failed error))
      | .error (.unconfigured name) => (draft, .error (.unconfigured name)) := by
  unfold Draft.addOperator
  rw [compileOperator_run]
  cases context.fragment layer element with
  | ok fragment => rfl
  | error interruption =>
    cases interruption with
    | failed error => rfl
    | unconfigured name => rfl

/-- An operator succeeds on a draft exactly when its fragment is complete, and then adds it. -/
theorem addOperator_eq_ok_iff {context : Context} {layer : String} {element : Element}
    {draft after : Draft} :
    draft.addOperator context layer element = (after, .ok ()) ↔
      ∃ fragment, context.fragment layer element = .ok fragment ∧
        draft.addFragment fragment = after := by
  rw [addOperator_eq]
  cases context.fragment layer element with
  | ok fragment => simp
  | error interruption => cases interruption <;> simp

/-- Whether an operator succeeds is decided without the draft. -/
theorem addOperator_succeeds_iff {context : Context} {layer : String} {element : Element}
    {draft : Draft} :
    (draft.addOperator context layer element).2 = .ok () ↔
      ∃ fragment, context.fragment layer element = .ok fragment := by
  rw [addOperator_eq]
  cases context.fragment layer element with
  | ok fragment => simp
  | error interruption => cases interruption <;> simp

/-! ## Unsupported units -/

/-- The units that a distance may be given in. -/
def supportedUnits : List String :=
  ["meters", "#metre", "kilometers", "#kilometre"]

/-- The unit of a distance operator's limit, when that is missing or not supported. -/
def unsupportedUnit? (element : Element) : Option String :=
  match (SpatialOperator.ofName? element.name).map SpatialOperator.family with
  | some (.distance _) =>
    element.elements[2]?.bind fun limit =>
      match limit.attribute? "units" with
      | some unit => if unit ∈ supportedUnits then none else some unit
      | none => some ""
  | _ => none

/-- A unit is reported unless it is supported, and a missing one is reported as an empty text. -/
theorem unitFactor_snd (unit : Option String) :
    (Context.unitFactor unit).2 =
      match unit with
      | some unit => if unit ∈ supportedUnits then none else some unit
      | none => some "" := by
  unfold Context.unitFactor
  split
  next => rfl
  next => rfl
  next => rfl
  next => rfl
  next first second third fourth =>
    cases unit with
    | none => rfl
    | some unit =>
      have unlisted : unit ∉ supportedUnits := by
        simp only [supportedUnits, List.mem_cons, List.not_mem_nil, or_false]
        rintro (rfl | rfl | rfl | rfl)
        · exact first rfl
        · exact second rfl
        · exact third rfl
        · exact fourth rfl
      simp [unlisted]

theorem comparisonFragment_unit {comparison : Comparison} {fragment : Fragment}
    (complete : Context.comparisonFragment comparison = .ok fragment) :
    fragment.unsupportedUnit = comparison.unsupportedUnit := by
  obtain ⟨-, rfl⟩ := comparisonFragment_eq_ok_iff.mp complete
  rfl

/-- A complete fragment carries the unit of its element when that is not supported, and no other
fragment carries a unit. -/
theorem fragment_unit {context : Context} {layer : String} {element : Element}
    {fragment : Fragment} (complete : context.fragment layer element = .ok fragment) :
    fragment.unsupportedUnit = unsupportedUnit? element := by
  unfold unsupportedUnit?
  cases Context.fragment_eq_ok_iff.mp complete with
  | topological operator predicate sql named family compiled => simp [named, family]
  | distance operator comparator comparison _ named family compared written =>
    obtain ⟨limit, present, -, read⟩ := limitOperand_eq_ok (comparison_limit compared)
    obtain ⟨unit_eq, -⟩ := readDistance_eq_ok read
    rw [comparisonFragment_unit written, unit_eq, unitFactor_snd]
    simp [named, family, present]
  | box operator sql named family compiled => simp [named, family]

end SpatialFilter
