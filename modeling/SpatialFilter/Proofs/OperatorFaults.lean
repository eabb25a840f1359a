import SpatialFilter.Proofs.EnvelopeReadings
import SpatialFilter.Proofs.OperatorGrammar
import SpatialFilter.Proofs.RenderedBoxes

/-!
# The operators that fail

Where the collaborators of a context never fail, an operator element fails through what it holds
itself.  `Context.Refuses` lists the ways, each with its condition, and an operator fails with an
error exactly when one of them gives it (`fragment_eq_error_iff`).  None of them is an error of the
engine, of a reference, of markup or of a unit.

Numbers are written in two places.  An envelope that was read is always written.  A limit of a
distance is a finite number as well, but it may be given in kilometres, and only the product with a
thousand can leave the finite range.
-/

namespace SpatialFilter

open SpatialFilter.Number
open SpatialFilter.Markup

/-- The collaborators of a context have an answer for every property and every element. -/
structure Context.CollaboratorsSucceed (context : Context) (layer : String) : Prop where
  columns : ∀ property, ∃ column, context.columns layer property = .ok column
  geometries : ∀ element, ∃ text, context.geometries element = .ok text

/-! ## The ways to fail -/

/-- The first operand stands for a property. -/
def BeginsWithProperty (element : Element) : Prop :=
  ∃ property, element.elements[0]? = some property ∧ NamesProperty property

/-- The element is an operator that compares its column with this envelope. -/
structure ComparesEnvelope (element operand : Element) : Prop where
  named : element.name ∈ topologicalNames ∨ element.name = "BBOX"
  first : BeginsWithProperty element
  second : element.elements[1]? = some operand
  writes : writesEnvelope operand = true

/-- The element measures a distance to a geometry. -/
structure MeasuresDistance (operator : SpatialOperator) (element : Element) : Prop where
  named : SpatialOperator.ofName? element.name = some operator
  family : ∃ comparator, operator.family = .distance comparator
  first : BeginsWithProperty element
  second : ∃ operand, element.elements[1]? = some operand ∧ ¬ NamesProperty operand

/-- The limit that an element measures a distance against. -/
structure HasLimit (operator : SpatialOperator) (element limit : Element) : Prop where
  measures : MeasuresDistance operator element
  third : element.elements[2]? = some limit
  named : limit.name = "Distance"

/-- What is wrong with an operator element, for a layer that is stored as given. -/
inductive Context.Refuses (context : Context) (stored : Layer) (element : Element) :
    FilterError → Prop
  | noOperator (unnamed : SpatialOperator.ofName? element.name = none) :
    Refuses context stored element (.unknownOperator element.name)
  | noProperty {operator : SpatialOperator}
      (named : SpatialOperator.ofName? element.name = some operator)
      (first : ¬ BeginsWithProperty element) :
    Refuses context stored element (.structural (.noProperty operator))
  | noGeometry {operator : SpatialOperator}
      (named : SpatialOperator.ofName? element.name = some operator)
      (family : operator.family ≠ .box) (first : BeginsWithProperty element)
      (second : ∀ operand, element.elements[1]? = some operand → NamesProperty operand) :
    Refuses context stored element (.structural (.noGeometry operator))
  | noEnvelope (named : element.name = "BBOX") (first : BeginsWithProperty element)
      (second : ∀ operand, element.elements[1]? = some operand → writesEnvelope operand = false) :
    Refuses context stored element (.structural .noEnvelope)
  | mismatch {operand : Element} {reference : String} (compares : ComparesEnvelope element operand)
      (named : operand.attribute? "srsName" = some reference)
      (other : Text.occursIn (int32Text (context.comparedSrid stored)).toList reference.toList =
        false) :
    Refuses context stored element (.mismatchedReference reference (context.comparedSrid stored))
  | envelope {operand : Element} {error : FilterError} (compares : ComparesEnvelope element operand)
      (mentions : MentionsSrid (context.comparedSrid stored) operand)
      (fault : Envelope.ofElement operand = .error error) :
    Refuses context stored element error
  | noDistance {operator : SpatialOperator} (measures : MeasuresDistance operator element)
      (third : ∀ limit, element.elements[2]? = some limit → limit.name ≠ "Distance") :
    Refuses context stored element (.structural (.noDistance operator))
  | limit {operator : SpatialOperator} {limit : Element} {error : FilterError}
      (has : HasLimit operator element limit)
      (fault : readNumber limit.text.toList = .error error) :
    Refuses context stored element error
  | overflow {operator : SpatialOperator} {limit : Element} {value : Binary64}
      (has : HasLimit operator element limit) (number : readNumber limit.text.toList = .ok value)
      (beyond : (inMeters (limit.attribute? "units") value).isFinite = false) :
    Refuses context stored element
      (.malformedNumber (inMeters (limit.attribute? "units") value).text)

/-! ## Failing operands -/

section Operands

variable {context : Context} {layer : String} {operator : SpatialOperator}
  {operand : Option Element} {interruption : Interruption FilterError}

/-- Only a missing property makes the first operand fail. -/
theorem operandColumn_eq_error_iff (succeed : context.CollaboratorsSucceed layer) :
    context.operandColumn layer operator operand = .error interruption ↔
      (¬ ∃ property, operand = some property ∧ NamesProperty property) ∧
        .failed (.structural (.noProperty operator)) = interruption := by
  cases operand with
  | none => simp [Context.operandColumn, Outcome.fail]
  | some element =>
    simp only [Context.operandColumn, Option.map_some, Option.some.injEq, exists_eq_left']
    rcases namesProperty_or_writesEnvelope_or_other element with named | writes | ⟨other, plain⟩
    · obtain ⟨column, resolved⟩ := succeed.columns (propertyName element)
      simp [ofElement_of_namesProperty named, resolved, named]
    · have other := not_namesProperty_of_writesEnvelope writes
      simp [Operand.ofElement_of_writesEnvelope writes, other, Outcome.fail]
    · simp [ofElement_of_other other plain, other, Outcome.fail]

theorem geometryLiteral_succeeds (succeed : context.CollaboratorsSucceed layer)
    (element : Element) : ∃ sql, context.geometryLiteral element = .ok sql := by
  obtain ⟨text, translated⟩ := succeed.geometries element
  exact ⟨_, geometryLiteral_eq_ok_iff.mpr ⟨text, translated, rfl⟩⟩

/-- An operand to compare with is missing or a property, or its envelope is at fault. -/
theorem comparedOperand_eq_error_iff (succeed : context.CollaboratorsSucceed layer) :
    context.comparedOperand layer operator operand = .error interruption ↔
      ((∀ element, operand = some element → NamesProperty element) ∧
          .failed (.structural (.noGeometry operator)) = interruption) ∨
        ∃ element, operand = some element ∧ writesEnvelope element = true ∧
          context.envelopeLiteral layer element = .error interruption := by
  cases operand with
  | none => simp [Context.comparedOperand, Outcome.fail]
  | some element =>
    simp only [Context.comparedOperand, Option.map_some, Option.some.injEq, forall_eq',
      exists_eq_left']
    rcases namesProperty_or_writesEnvelope_or_other element with named | writes | ⟨other, plain⟩
    · have plain : ¬ writesEnvelope element = true := fun writes =>
        not_namesProperty_of_writesEnvelope writes named
      simp [ofElement_of_namesProperty named, named, plain, Outcome.fail]
    · have other := not_namesProperty_of_writesEnvelope writes
      simp [Operand.ofElement_of_writesEnvelope writes, other, writes]
    · obtain ⟨sql, translated⟩ := geometryLiteral_succeeds succeed element
      simp [ofElement_of_other other plain, other, plain, translated]

theorem boxOperand_eq_error_iff :
    context.boxOperand layer operand = .error interruption ↔
      ((∀ element, operand = some element → writesEnvelope element = false) ∧
          .failed (.structural .noEnvelope) = interruption) ∨
        ∃ element, operand = some element ∧ writesEnvelope element = true ∧
          context.envelopeLiteral layer element = .error interruption := by
  cases operand with
  | none => simp [Context.boxOperand, Outcome.fail]
  | some element =>
    simp only [Context.boxOperand, Option.map_some, Option.some.injEq, forall_eq',
      exists_eq_left']
    rcases namesProperty_or_writesEnvelope_or_other element with named | writes | ⟨other, plain⟩
    · have plain : writesEnvelope element = false := by
        rw [Bool.eq_false_iff]
        exact fun writes => not_namesProperty_of_writesEnvelope writes named
      simp [ofElement_of_namesProperty named, plain, Outcome.fail]
    · simp [Operand.ofElement_of_writesEnvelope writes, writes]
    · simp [ofElement_of_other other plain, plain, Outcome.fail]

/-- An operand to measure a distance to fails only when it is missing or a property. -/
theorem measuredOperand_eq_error_iff (succeed : context.CollaboratorsSucceed layer) :
    context.measuredOperand operator operand = .error interruption ↔
      (∀ element, operand = some element → NamesProperty element) ∧
        .failed (.structural (.noGeometry operator)) = interruption := by
  cases operand with
  | none => simp [Context.measuredOperand, Outcome.fail]
  | some element =>
    simp only [Option.some.injEq, forall_eq']
    by_cases named : NamesProperty element
    · simp [Context.measuredOperand, ofElement_of_namesProperty named, named, Outcome.fail]
    · obtain ⟨sql, translated⟩ := geometryLiteral_succeeds succeed element
      simp [measuredOperand_of_other named, translated, named]

/-- A distance fails with its number only, never with its unit. -/
theorem readDistance_eq_error_iff {element : Element} {error : FilterError} :
    Context.readDistance element = .error error ↔
      readNumber element.text.toList = .error error := by
  unfold Context.readDistance
  rw [bind_eq_error]
  constructor
  · rintro (failed | ⟨value, -, failed⟩)
    · exact failed
    · dsimp only at failed
      split at failed <;> cases failed
  · exact Or.inl

/-- A limit fails when there is no `Distance` element, or with the number in it. -/
theorem limitOperand_eq_error_iff :
    Context.limitOperand operator operand = .error interruption ↔
      ((∀ limit, operand = some limit → limit.name ≠ "Distance") ∧
          .failed (.structural (.noDistance operator)) = interruption) ∨
        ∃ limit error, operand = some limit ∧ limit.name = "Distance" ∧
          readNumber limit.text.toList = .error error ∧ .failed error = interruption := by
  cases operand with
  | none => simp [Context.limitOperand, Outcome.fail]
  | some limit =>
    simp only [Context.limitOperand, Option.some.injEq, forall_eq', exists_and_left,
      exists_eq_left']
    by_cases named : limit.name = "Distance"
    · simp [named, Option.filter_some, Outcome.ofExcept, mapError_eq_error,
        readDistance_eq_error_iff]
    · simp [named, Option.filter_some, Outcome.fail]

end Operands

section Configured

variable {context : Context} {layer : String} {stored : Layer}
  {interruption : Interruption FilterError}

/-- Where it is converted, a column fails as it does where it is not. -/
theorem convertedColumn_eq_error_iff (configured : context.catalog.get? layer = some stored)
    {operator : SpatialOperator} {operand : Option Element} :
    context.convertedColumn layer operator operand = .error interruption ↔
      context.operandColumn layer operator operand = .error interruption := by
  unfold Context.convertedColumn
  rw [bind_eq_error, conversionSrid_of_configured configured]
  constructor
  · rintro (failed | ⟨column, -, failed⟩)
    · exact failed
    · split_ifs at failed <;> cases failed
  · exact Or.inl

theorem mentionsSrid_or_mismatch (srid : Int32) (element : Element) :
    MentionsSrid srid element ∨ ∃ reference, element.attribute? "srsName" = some reference ∧
      Text.occursIn (int32Text srid).toList reference.toList = false := by
  unfold MentionsSrid
  cases element.attribute? "srsName" with
  | none => exact Or.inl nofun
  | some reference => cases Text.occursIn (int32Text srid).toList reference.toList <;> simp

theorem envelopeLiteral_of_fault {srid : Int32} {element : Element} {error : FilterError}
    (target : context.literalSrid layer = .ok srid) (mentions : MentionsSrid srid element)
    (fault : Envelope.ofElement element = .error error) :
    context.envelopeLiteral layer element = Outcome.fail error := by
  rw [envelopeLiteral_eq_of_mentions target mentions, fault]
  rfl

/-- An envelope fails at the name of its reference or at its content, and never where it is
written. -/
theorem envelopeLiteral_eq_error_iff (configured : context.catalog.get? layer = some stored)
    {element : Element} :
    context.envelopeLiteral layer element = .error interruption ↔
      (∃ reference, element.attribute? "srsName" = some reference ∧
          Text.occursIn (int32Text (context.comparedSrid stored)).toList reference.toList = false ∧
          .failed (.mismatchedReference reference (context.comparedSrid stored)) =
            interruption) ∨
        MentionsSrid (context.comparedSrid stored) element ∧
          ∃ error, Envelope.ofElement element = .error error ∧ .failed error = interruption := by
  have target := literalSrid_of_configured configured
  rcases mentionsSrid_or_mismatch (context.comparedSrid stored) element with
    mentions | ⟨reference, named, other⟩
  · have noMismatch : ¬ ∃ reference, element.attribute? "srsName" = some reference ∧
        Text.occursIn (int32Text (context.comparedSrid stored)).toList reference.toList = false ∧
        .failed (.mismatchedReference reference (context.comparedSrid stored)) =
          interruption := by
      rintro ⟨reference, named, other, -⟩
      rw [mentions reference named] at other
      cases other
    cases read : Envelope.ofElement element with
    | error error =>
      simp [envelopeLiteral_of_fault target mentions read, noMismatch, mentions, Outcome.fail]
    | ok envelope =>
      have finite := (Envelope.ofElement_yields element).value envelope read
      obtain ⟨sql, written⟩ := finite.exists_boxLiteral (context.comparedSrid stored)
      have compiled := envelopeLiteral_of_mentions target mentions read
      rw [written] at compiled
      simp [compiled, rendered, mapError_ok, noMismatch]
  · have noMention : ¬ MentionsSrid (context.comparedSrid stored) element := by
      intro mentions
      rw [mentions reference named] at other
      cases other
    simp [envelopeLiteral_of_mismatch target named other, named, other, noMention, Outcome.fail]

theorem comparisonFragment_eq_error_iff {comparison : Comparison} :
    Context.comparisonFragment comparison = .error interruption ↔
      comparison.meters.isFinite = false ∧
        .failed (.malformedNumber comparison.meters.text) = interruption := by
  unfold Context.comparisonFragment rendered
  cases finite : comparison.meters.isFinite with
  | true => simp [number_of_finite finite, mapError_ok, bind, Except.bind, pure, Except.pure]
  | false =>
    simp [number_of_nonFinite finite, mapError_error, bind, Except.bind, FilterError.ofQueryError]

/-! ## Failing operators -/

/-- A first operand that resolves is a property, and every property resolves. -/
theorem convertedColumn_succeeds_iff (configured : context.catalog.get? layer = some stored)
    (succeed : context.CollaboratorsSucceed layer) (operator : SpatialOperator)
    {element : Element} :
    (∃ column, context.convertedColumn layer operator element.elements[0]? = .ok column) ↔
      BeginsWithProperty element := by
  simp only [convertedColumn_of_configured configured]
  constructor
  · rintro ⟨_, property, column, first, names, -⟩
    exact ⟨property, first, names.named⟩
  · rintro ⟨property, first, named⟩
    obtain ⟨column, resolved⟩ := succeed.columns (propertyName property)
    exact ⟨_, property, column, first, ⟨named, resolved⟩, rfl⟩

theorem operandColumn_succeeds_iff (succeed : context.CollaboratorsSucceed layer)
    (operator : SpatialOperator) {element : Element} :
    (∃ column, context.operandColumn layer operator element.elements[0]? = .ok column) ↔
      BeginsWithProperty element := by
  simp only [operandColumn_eq_ok_iff]
  constructor
  · rintro ⟨column, property, first, names⟩
    exact ⟨property, first, names.named⟩
  · rintro ⟨property, first, named⟩
    obtain ⟨column, resolved⟩ := succeed.columns (propertyName property)
    exact ⟨column, property, first, named, resolved⟩

theorem topologicalSql_eq_error_iff {operator : SpatialOperator} {predicate : String}
    {operands : List Element} :
    context.topologicalSql layer operator predicate operands = .error interruption ↔
      context.convertedColumn layer operator operands[0]? = .error interruption ∨
        (∃ column, context.convertedColumn layer operator operands[0]? = .ok column) ∧
          context.comparedOperand layer operator operands[1]? = .error interruption := by
  simp [Context.topologicalSql, bind_eq_error, pure, Except.pure]

theorem boxSql_eq_error_iff {operands : List Element} :
    context.boxSql layer operands = .error interruption ↔
      context.convertedColumn layer .box operands[0]? = .error interruption ∨
        (∃ column, context.convertedColumn layer .box operands[0]? = .ok column) ∧
          context.boxOperand layer operands[1]? = .error interruption := by
  simp [Context.boxSql, bind_eq_error, pure, Except.pure]

theorem comparison_eq_error_iff (configured : context.catalog.get? layer = some stored)
    {operator : SpatialOperator} {comparator : String} {operands : List Element} :
    context.comparison layer operator comparator operands = .error interruption ↔
      context.operandColumn layer operator operands[0]? = .error interruption ∨
        (∃ column, context.operandColumn layer operator operands[0]? = .ok column) ∧
          (context.measuredOperand operator operands[1]? = .error interruption ∨
            (∃ geometry, context.measuredOperand operator operands[1]? = .ok geometry) ∧
              Context.limitOperand operator operands[2]? = .error interruption) := by
  have metric : context.catalog.isMetric layer = (.ok (!stored.isAngular) : Outcome Bool) := by
    simp [LayerCatalog.isMetric, LayerCatalog.require, configured, Except.map]
  simp [Context.comparison, bind_eq_error, metric, pure, Except.pure]

/-- An envelope that a column is compared with fails in one of two ways. -/
theorem refuses_of_envelopeLiteral (configured : context.catalog.get? layer = some stored)
    {element operand : Element} (compares : ComparesEnvelope element operand)
    (failed : context.envelopeLiteral layer operand = .error interruption) :
    ∃ error, context.Refuses stored element error ∧ .failed error = interruption := by
  rcases (envelopeLiteral_eq_error_iff configured).mp failed with
    ⟨reference, named, other, rfl⟩ | ⟨mentions, error, fault, rfl⟩
  · exact ⟨_, .mismatch compares named other, rfl⟩
  · exact ⟨error, .envelope compares mentions fault, rfl⟩

theorem refuses_of_limitOperand {operator : SpatialOperator} {element : Element}
    (measures : MeasuresDistance operator element)
    (failed : Context.limitOperand operator element.elements[2]? = .error interruption) :
    ∃ error, context.Refuses stored element error ∧ .failed error = interruption := by
  rcases limitOperand_eq_error_iff.mp failed with
    ⟨third, rfl⟩ | ⟨limit, error, third, named, fault, rfl⟩
  · exact ⟨_, .noDistance measures third, rfl⟩
  · exact ⟨error, .limit ⟨measures, third, named⟩ fault, rfl⟩

/-- A limit that cannot be written is a product that is not finite. -/
theorem refuses_of_comparisonFragment {operator : SpatialOperator} {element : Element}
    (measures : MeasuresDistance operator element) {comparison : Comparison}
    (limited : Context.limitOperand operator element.elements[2]? =
      .ok (comparison.meters, comparison.unsupportedUnit))
    (failed : Context.comparisonFragment comparison = .error interruption) :
    ∃ error, context.Refuses stored element error ∧ .failed error = interruption := by
  obtain ⟨beyond, rfl⟩ := comparisonFragment_eq_error_iff.mp failed
  obtain ⟨limit, third, named, read⟩ := limitOperand_eq_ok limited
  obtain ⟨value, number, converted, -⟩ := readDistance_eq_ok_iff.mp read
  rw [← converted] at beyond ⊢
  exact ⟨_, .overflow ⟨measures, third, named⟩ number beyond, rfl⟩

section Families

variable (configured : context.catalog.get? layer = some stored)
  (succeed : context.CollaboratorsSucceed layer) {operator : SpatialOperator} {element : Element}
  (named : SpatialOperator.ofName? element.name = some operator)

include succeed named

theorem refuses_of_operandColumn
    (failed : context.operandColumn layer operator element.elements[0]? = .error interruption) :
    ∃ error, context.Refuses stored element error ∧ .failed error = interruption := by
  obtain ⟨first, rfl⟩ := (operandColumn_eq_error_iff succeed).mp failed
  exact ⟨_, .noProperty named first, rfl⟩

include configured

theorem refuses_of_topologicalSql {predicate : String}
    (family : operator.family = .topological predicate)
    (failed : context.topologicalSql layer operator predicate element.elements =
      .error interruption) :
    ∃ error, context.Refuses stored element error ∧ .failed error = interruption := by
  rw [topologicalSql_eq_error_iff, convertedColumn_succeeds_iff configured succeed operator,
    convertedColumn_eq_error_iff configured] at failed
  rcases failed with column | ⟨first, compared⟩
  · exact refuses_of_operandColumn succeed named column
  · rcases (comparedOperand_eq_error_iff succeed).mp compared with
      ⟨second, rfl⟩ | ⟨operand, second, writes, literal⟩
    · exact ⟨_, .noGeometry named (by simp [family]) first second, rfl⟩
    · have listed := (topological_iff.mp ⟨operator, named, family⟩).1
      exact refuses_of_envelopeLiteral configured ⟨.inl listed, first, second, writes⟩ literal

theorem refuses_of_boxSql (family : operator.family = .box)
    (failed : context.boxSql layer element.elements = .error interruption) :
    ∃ error, context.Refuses stored element error ∧ .failed error = interruption := by
  have box_named : element.name = "BBOX" := box_iff.mp ⟨operator, named, family⟩
  have box : SpatialOperator.ofName? element.name = some .box := by
    rw [box_named]
    rfl
  rw [boxSql_eq_error_iff, convertedColumn_succeeds_iff configured succeed .box,
    convertedColumn_eq_error_iff configured] at failed
  rcases failed with column | ⟨first, boxed⟩
  · exact refuses_of_operandColumn succeed box column
  · rcases boxOperand_eq_error_iff.mp boxed with
      ⟨second, rfl⟩ | ⟨operand, second, writes, literal⟩
    · exact ⟨_, .noEnvelope box_named first second, rfl⟩
    · exact refuses_of_envelopeLiteral configured ⟨.inr box_named, first, second, writes⟩ literal

theorem refuses_of_comparison {comparator : String}
    (family : operator.family = .distance comparator)
    (failed : context.comparison layer operator comparator element.elements =
      .error interruption) :
    ∃ error, context.Refuses stored element error ∧ .failed error = interruption := by
  rw [comparison_eq_error_iff configured, operandColumn_succeeds_iff succeed operator] at failed
  rcases failed with column | ⟨first, measured | ⟨⟨geometry, measured⟩, limited⟩⟩
  · exact refuses_of_operandColumn succeed named column
  · obtain ⟨second, rfl⟩ := (measuredOperand_eq_error_iff succeed).mp measured
    exact ⟨_, .noGeometry named (by simp [family]) first second, rfl⟩
  · obtain ⟨operand, text, second, translates, -⟩ := measuredOperand_eq_ok_iff.mp measured
    exact refuses_of_limitOperand
      ⟨named, ⟨comparator, family⟩, first, operand, second, translates.noProperty⟩ limited

end Families

/-- What a distance that compares is made of. -/
theorem measuresDistance_of_comparison (configured : context.catalog.get? layer = some stored)
    {operator : SpatialOperator} {element : Element} {comparator : String}
    {comparison : Comparison} (named : SpatialOperator.ofName? element.name = some operator)
    (family : operator.family = .distance comparator)
    (compared : context.comparison layer operator comparator element.elements = .ok comparison) :
    MeasuresDistance operator element := by
  obtain ⟨column, geometry, resolved, measured, -⟩ :=
    (comparison_of_configured configured).mp compared
  obtain ⟨property, first, names⟩ := operandColumn_eq_ok_iff.mp resolved
  obtain ⟨operand, text, second, translates, -⟩ := measuredOperand_eq_ok_iff.mp measured
  exact ⟨named, ⟨comparator, family⟩, ⟨property, first, names.named⟩, operand, second,
    translates.noProperty⟩

section Families

variable {operator : SpatialOperator} {element : Element}
  (named : SpatialOperator.ofName? element.name = some operator)

include named

theorem fragment_error_iff_of_topological {predicate : String}
    (family : operator.family = .topological predicate) :
    context.fragment layer element = .error interruption ↔
      context.topologicalSql layer operator predicate element.elements = .error interruption := by
  simp [Context.fragment, named, family, bind_eq_error, pure, Except.pure]

theorem fragment_error_iff_of_distance {comparator : String}
    (family : operator.family = .distance comparator) :
    context.fragment layer element = .error interruption ↔
      context.comparison layer operator comparator element.elements = .error interruption ∨
        ∃ comparison,
          context.comparison layer operator comparator element.elements = .ok comparison ∧
            Context.comparisonFragment comparison = .error interruption := by
  simp only [Context.fragment, named, family, bind_eq_error]

theorem fragment_error_iff_of_box (family : operator.family = .box) :
    context.fragment layer element = .error interruption ↔
      context.boxSql layer element.elements = .error interruption := by
  simp [Context.fragment, named, family, bind_eq_error, pure, Except.pure]

end Families

/-- Every failure is in the list. -/
theorem refuses_of_fragment (configured : context.catalog.get? layer = some stored)
    (succeed : context.CollaboratorsSucceed layer) {element : Element}
    (failed : context.fragment layer element = .error interruption) :
    ∃ error, context.Refuses stored element error ∧ .failed error = interruption := by
  cases named : SpatialOperator.ofName? element.name with
  | none =>
    simp only [Context.fragment, named] at failed
    cases failed
    exact ⟨_, .noOperator named, rfl⟩
  | some operator =>
    cases family : operator.family with
    | topological predicate =>
      rw [fragment_error_iff_of_topological named family] at failed
      exact refuses_of_topologicalSql configured succeed named family failed
    | distance comparator =>
      rw [fragment_error_iff_of_distance named family] at failed
      rcases failed with distance | ⟨comparison, compared, written⟩
      · exact refuses_of_comparison configured succeed named family distance
      · exact refuses_of_comparisonFragment
          (measuresDistance_of_comparison configured named family compared)
          (comparison_limit compared) written
    | box =>
      rw [fragment_error_iff_of_box named family] at failed
      exact refuses_of_boxSql configured succeed named family failed

theorem family_of_box {operator : SpatialOperator} (family : operator.family = .box) :
    operator = .box := by
  cases operator with
  | box => rfl
  | _ => cases family

/-- The first operand is looked at first in every family. -/
theorem fragment_of_operandColumn (configured : context.catalog.get? layer = some stored)
    {operator : SpatialOperator} {element : Element}
    (named : SpatialOperator.ofName? element.name = some operator)
    (failed : context.operandColumn layer operator element.elements[0]? = .error interruption) :
    context.fragment layer element = .error interruption := by
  have converted := (convertedColumn_eq_error_iff configured).mpr failed
  cases family : operator.family with
  | topological predicate =>
    exact (fragment_error_iff_of_topological named family).mpr
      (topologicalSql_eq_error_iff.mpr (Or.inl converted))
  | distance comparator =>
    exact (fragment_error_iff_of_distance named family).mpr
      (Or.inl ((comparison_eq_error_iff configured).mpr (Or.inl failed)))
  | box =>
    obtain rfl := family_of_box family
    exact (fragment_error_iff_of_box named family).mpr
      (boxSql_eq_error_iff.mpr (Or.inl converted))

/-- An envelope that fails makes the operator fail that compares with it. -/
theorem fragment_of_envelopeLiteral (configured : context.catalog.get? layer = some stored)
    (succeed : context.CollaboratorsSucceed layer) {element operand : Element}
    (compares : ComparesEnvelope element operand)
    (failed : context.envelopeLiteral layer operand = .error interruption) :
    context.fragment layer element = .error interruption := by
  rcases compares.named with listed | box
  · obtain ⟨operator, named, family⟩ := topological_iff.mpr ⟨listed, rfl⟩
    have column := (convertedColumn_succeeds_iff configured succeed operator).mpr compares.first
    have compared : context.comparedOperand layer operator element.elements[1]? =
        .error interruption :=
      (comparedOperand_eq_error_iff succeed).mpr
        (Or.inr ⟨operand, compares.second, compares.writes, failed⟩)
    exact (fragment_error_iff_of_topological named family).mpr
      (topologicalSql_eq_error_iff.mpr (Or.inr ⟨column, compared⟩))
  · obtain ⟨operator, named, family⟩ := box_iff.mpr box
    obtain rfl := family_of_box family
    have column := (convertedColumn_succeeds_iff configured succeed .box).mpr compares.first
    have boxed := boxOperand_eq_error_iff.mpr
      (Or.inr ⟨operand, compares.second, compares.writes, failed⟩)
    exact (fragment_error_iff_of_box named family).mpr
      (boxSql_eq_error_iff.mpr (Or.inr ⟨column, boxed⟩))

/-- A distance to a geometry fails with its limit. -/
theorem fragment_of_limitOperand (configured : context.catalog.get? layer = some stored)
    (succeed : context.CollaboratorsSucceed layer) {operator : SpatialOperator} {element : Element}
    (measures : MeasuresDistance operator element)
    (failed : Context.limitOperand operator element.elements[2]? = .error interruption) :
    context.fragment layer element = .error interruption := by
  obtain ⟨comparator, family⟩ := measures.family
  obtain ⟨operand, second, noProperty⟩ := measures.second
  have column := (operandColumn_succeeds_iff succeed operator).mpr measures.first
  have measured : ∃ geometry, context.measuredOperand operator element.elements[1]? =
      .ok geometry := by
    rw [second, measuredOperand_of_other noProperty]
    exact geometryLiteral_succeeds succeed operand
  exact (fragment_error_iff_of_distance measures.named family).mpr (Or.inl
    ((comparison_eq_error_iff configured).mpr (Or.inr ⟨column, Or.inr ⟨measured, failed⟩⟩)))

/-- A distance that can be compared but not written fails with the product. -/
theorem fragment_of_overflow (configured : context.catalog.get? layer = some stored)
    (succeed : context.CollaboratorsSucceed layer) {operator : SpatialOperator}
    {element limit : Element} {value : Binary64} (has : HasLimit operator element limit)
    (number : readNumber limit.text.toList = .ok value)
    (beyond : (inMeters (limit.attribute? "units") value).isFinite = false) :
    context.fragment layer element =
      Outcome.fail (.malformedNumber (inMeters (limit.attribute? "units") value).text) := by
  obtain ⟨comparator, family⟩ := has.measures.family
  obtain ⟨operand, second, noProperty⟩ := has.measures.second
  obtain ⟨column, resolved⟩ :=
    (operandColumn_succeeds_iff succeed operator).mpr has.measures.first
  obtain ⟨geometry, translated⟩ := geometryLiteral_succeeds succeed operand
  have measured : context.measuredOperand operator element.elements[1]? = .ok geometry := by
    rw [second, measuredOperand_of_other noProperty, translated]
  have read := readDistance_eq_ok_iff.mpr ⟨value, number, rfl, rfl⟩
  have limited : Context.limitOperand operator element.elements[2]? =
      .ok (inMeters (limit.attribute? "units") value,
        (Context.unitFactor (limit.attribute? "units")).2) := by
    simp only [Context.limitOperand, has.third, Option.filter_some, has.named, beq_self_eq_true,
      if_true]
    exact ofExcept_eq_ok.mpr read
  let comparison : Comparison := ⟨stored.measure ++ "(ST_centroid(" ++ column ++
    "),ST_centroid(" ++ geometry ++ ")) " ++ comparator ++ " ",
    inMeters (limit.attribute? "units") value, (Context.unitFactor (limit.attribute? "units")).2⟩
  have compared : context.comparison layer operator comparator element.elements = .ok comparison :=
    (comparison_of_configured configured).mpr ⟨column, geometry, resolved, measured, limited, rfl⟩
  have written : Context.comparisonFragment comparison =
      Outcome.fail (.malformedNumber comparison.meters.text) :=
    comparisonFragment_eq_error_iff.mpr ⟨beyond, rfl⟩
  exact (fragment_error_iff_of_distance has.measures.named family).mpr
    (Or.inr ⟨comparison, compared, written⟩)

/-- Each way in the list is a failure. -/
theorem fragment_of_refuses (configured : context.catalog.get? layer = some stored)
    (succeed : context.CollaboratorsSucceed layer) {element : Element} {error : FilterError}
    (refuses : context.Refuses stored element error) :
    context.fragment layer element = Outcome.fail error := by
  cases refuses with
  | noOperator unnamed => simp only [Context.fragment, unnamed]
  | noProperty named first =>
    exact fragment_of_operandColumn configured named
      ((operandColumn_eq_error_iff succeed).mpr ⟨first, rfl⟩)
  | @noGeometry operator named family first second =>
    cases kind : operator.family with
    | topological predicate =>
      have column := (convertedColumn_succeeds_iff configured succeed operator).mpr first
      have compared : context.comparedOperand layer operator element.elements[1]? =
          Outcome.fail (.structural (.noGeometry operator)) :=
        (comparedOperand_eq_error_iff succeed).mpr (Or.inl ⟨second, rfl⟩)
      exact (fragment_error_iff_of_topological named kind).mpr
        (topologicalSql_eq_error_iff.mpr (Or.inr ⟨column, compared⟩))
    | distance comparator =>
      have column := (operandColumn_succeeds_iff succeed operator).mpr first
      have measured : context.measuredOperand operator element.elements[1]? =
          Outcome.fail (.structural (.noGeometry operator)) :=
        (measuredOperand_eq_error_iff succeed).mpr ⟨second, rfl⟩
      exact (fragment_error_iff_of_distance named kind).mpr
        (Or.inl ((comparison_eq_error_iff configured).mpr (Or.inr ⟨column, Or.inl measured⟩)))
    | box => exact absurd kind family
  | noEnvelope named first second =>
    obtain ⟨operator, operator_named, family⟩ := box_iff.mpr named
    have column := (convertedColumn_succeeds_iff configured succeed .box).mpr first
    have boxed : context.boxOperand layer element.elements[1]? =
        Outcome.fail (.structural .noEnvelope) :=
      boxOperand_eq_error_iff.mpr (Or.inl ⟨second, rfl⟩)
    exact (fragment_error_iff_of_box operator_named family).mpr
      (boxSql_eq_error_iff.mpr (Or.inr ⟨column, boxed⟩))
  | mismatch compares named other =>
    exact fragment_of_envelopeLiteral configured succeed compares
      ((envelopeLiteral_eq_error_iff configured).mpr (Or.inl ⟨_, named, other, rfl⟩))
  | envelope compares mentions fault =>
    exact fragment_of_envelopeLiteral configured succeed compares
      ((envelopeLiteral_eq_error_iff configured).mpr (Or.inr ⟨mentions, error, fault, rfl⟩))
  | noDistance measures third =>
    exact fragment_of_limitOperand configured succeed measures
      (limitOperand_eq_error_iff.mpr (Or.inl ⟨third, rfl⟩))
  | limit has fault =>
    exact fragment_of_limitOperand configured succeed has.measures
      (limitOperand_eq_error_iff.mpr (Or.inr ⟨_, error, has.third, has.named, fault, rfl⟩))
  | overflow has number beyond =>
    exact fragment_of_overflow configured succeed has number beyond

/-- An operator fails with an error exactly when the list gives that error. -/
theorem fragment_eq_error_iff (configured : context.catalog.get? layer = some stored)
    (succeed : context.CollaboratorsSucceed layer) {element : Element} :
    context.fragment layer element = .error interruption ↔
      ∃ error, context.Refuses stored element error ∧ .failed error = interruption := by
  constructor
  · exact refuses_of_fragment configured succeed
  · rintro ⟨error, refuses, rfl⟩
    exact fragment_of_refuses configured succeed refuses

/-- An operator fails exactly with an error that the element is refused with. -/
theorem addOperator_eq_error_iff (configured : context.catalog.get? layer = some stored)
    (succeed : context.CollaboratorsSucceed layer) {element : Element} {draft : Draft} :
    (draft.addOperator context layer element).2 = .error interruption ↔
      ∃ error, context.Refuses stored element error ∧ .failed error = interruption := by
  rw [← fragment_eq_error_iff configured succeed, addOperator_eq]
  cases context.fragment layer element with
  | ok fragment => simp
  | error other => cases other <;> simp

end Configured

/-! ## Where errors come from -/

/-- What an operator can fail with: the unknown name of the element, a fault of its content, or a
reference name that does not mention the srid that is compared in. -/
theorem Context.Refuses.kind {context : Context} {stored : Layer} {element : Element}
    {error : FilterError} (refuses : context.Refuses stored element error) :
    error = .unknownOperator element.name ∨ error.IsContentFault ∨
      ∃ reference, error = .mismatchedReference reference (context.comparedSrid stored) := by
  cases refuses with
  | noOperator => exact Or.inl rfl
  | noProperty | noGeometry | noEnvelope | noDistance => exact Or.inr (Or.inl (.arrangement _))
  | mismatch => exact Or.inr (Or.inr ⟨_, rfl⟩)
  | envelope compares mentions fault =>
    exact Or.inr (Or.inl ((Envelope.ofElement_yields _).fault error fault))
  | limit has fault => exact Or.inr (Or.inl ((readNumber_yields _).fault error fault))
  | overflow => exact Or.inr (Or.inl (.number _))

theorem ofName?_eq_none_iff {name : String} :
    SpatialOperator.ofName? name = none ↔ name ∉ SpatialOperator.all.map SpatialOperator.name := by
  simp [SpatialOperator.ofName?, List.find?_eq_none]

/-- An operator is unknown exactly when the name of the element is that of no operator. -/
theorem Context.Refuses.unknownOperator_iff {context : Context} {stored : Layer}
    {element : Element} {name : String} :
    context.Refuses stored element (.unknownOperator name) ↔
      name = element.name ∧ element.name ∉ SpatialOperator.all.map SpatialOperator.name := by
  rw [← ofName?_eq_none_iff]
  constructor
  · intro refuses
    generalize shown : FilterError.unknownOperator name = error at refuses
    cases refuses with
    | noOperator unnamed =>
      cases shown
      exact ⟨rfl, unnamed⟩
    | noProperty | noGeometry | noEnvelope | noDistance | mismatch | overflow => cases shown
    | envelope compares mentions fault =>
      subst shown
      cases (Envelope.ofElement_yields _).fault _ fault
    | limit has fault =>
      subst shown
      cases (readNumber_yields _).fault _ fault
  · rintro ⟨rfl, unnamed⟩
    exact .noOperator unnamed

/-! ## Limits beyond the finite numbers -/

/-- A product of finite numbers that is not finite has overflown. -/
theorem Binary64.isInfinite_of_mul {x y : Binary64} (x_finite : x.isFinite = true)
    (y_finite : y.isFinite = true) (beyond : (x.mul y).isFinite = false) :
    (x.mul y).isInfinite = true := by
  cases x with
  | nan => cases x_finite
  | ranked s rank rank_le =>
    cases y with
    | nan => cases y_finite
    | ranked t rank' rank_le' =>
      have x_below : rank < infinityRank := by simpa [Binary64.isFinite] using x_finite
      have y_below : rank' < infinityRank := by simpa [Binary64.isFinite] using y_finite
      have product : (Binary64.ranked s rank rank_le).mul (.ranked t rank' rank_le') =
          .ofUnits (s != t) (units rank * units rank') unitsPerOne := by
        unfold Binary64.mul
        exact if_neg (by omega)
      rw [product] at beyond ⊢
      have bounded : nearestRank (units rank * units rank') unitsPerOne ≤ infinityRank :=
        Nat.min_le_right ..
      have reached : infinityRank ≤ nearestRank (units rank * units rank') unitsPerOne := by
        simpa [Binary64.ofUnits, Binary64.isFinite] using beyond
      simpa [Binary64.ofUnits, Binary64.isInfinite] using le_antisymm bounded reached

/-- The limit is a finite number of kilometres and overflows in metres. -/
structure Overflows (limit : Element) (value meters : Binary64) : Prop where
  unit : limit.attribute? "units" = some "kilometers" ∨ limit.attribute? "units" = some "#kilometre"
  written : readNumber limit.text.toList = .ok value
  finite : value.isFinite = true
  product : meters = value.mul (Decimal.toBinary64 ⟨1000, 0⟩ false)
  infinite : meters.isInfinite = true

/-- Only kilometres take a finite limit beyond the finite numbers. -/
theorem overflows_of_inMeters {limit : Element} {value : Binary64}
    (number : readNumber limit.text.toList = .ok value)
    (beyond : (inMeters (limit.attribute? "units") value).isFinite = false) :
    Overflows limit value (inMeters (limit.attribute? "units") value) := by
  have finite := (readNumber_eq_ok.mp number).2
  by_cases kilometers : limit.attribute? "units" = some "kilometers" ∨
      limit.attribute? "units" = some "#kilometre"
  · have product : inMeters (limit.attribute? "units") value =
        value.mul (Decimal.toBinary64 ⟨1000, 0⟩ false) := if_pos kilometers
    have thousand_finite : (Decimal.toBinary64 ⟨1000, 0⟩ false).isFinite = true := by
      decide +kernel
    refine ⟨kilometers, number, finite, product, ?_⟩
    rw [product] at beyond ⊢
    exact Binary64.isInfinite_of_mul finite thousand_finite beyond
  · rw [inMeters, if_neg kilometers, finite] at beyond
    cases beyond

/-- A limit that was read but cannot be written is one of kilometres that overflows, and the
operator fails with the text of the product. -/
theorem overflows_of_number_error {context : Context} {layer : String} {stored : Layer}
    (configured : context.catalog.get? layer = some stored)
    (succeed : context.CollaboratorsSucceed layer) {operator : SpatialOperator} {element : Element}
    {comparator : String} {comparison : Comparison} {error : Database.QueryError}
    (named : SpatialOperator.ofName? element.name = some operator)
    (family : operator.family = .distance comparator)
    (compared : context.comparison layer operator comparator element.elements = .ok comparison)
    (unwritten : Sql.number comparison.meters = .error error) :
    ∃ limit value, HasLimit operator element limit ∧ Overflows limit value comparison.meters ∧
      context.fragment layer element =
        Outcome.fail (.malformedNumber comparison.meters.text) := by
  have beyond : comparison.meters.isFinite = false := by
    cases finite : comparison.meters.isFinite with
    | false => rfl
    | true =>
      rw [number_of_finite finite] at unwritten
      cases unwritten
  obtain ⟨limit, third, limit_named, read⟩ := limitOperand_eq_ok (comparison_limit compared)
  obtain ⟨value, number, converted, -⟩ := readDistance_eq_ok_iff.mp read
  have has : HasLimit operator element limit :=
    ⟨measuresDistance_of_comparison configured named family compared, third, limit_named⟩
  rw [← converted] at beyond ⊢
  exact ⟨limit, value, has, overflows_of_inMeters number beyond,
    fragment_of_overflow configured succeed has number beyond⟩

/-- Where the collaborators never fail, an operator of a configured layer fails exactly as the list
says.  So what it fails with is the unknown name of the element, which is so for the names that no
operator has, or a fault of what it holds, or a reference name that does not mention the srid.  An
envelope that was read is finite and is always written.  Writing the limit of a distance fails for a
finite number of kilometres whose product with a thousand overflows, and for no other, and the error
is that of a number. -/
theorem errors_come_from_the_element {context : Context} {layer : String} {stored : Layer}
    (configured : context.catalog.get? layer = some stored)
    (succeed : context.CollaboratorsSucceed layer) (element : Element) (draft : Draft) :
    (∀ interruption, (draft.addOperator context layer element).2 = .error interruption ↔
        ∃ error, context.Refuses stored element error ∧ .failed error = interruption) ∧
      (∀ interruption, (draft.addOperator context layer element).2 = .error interruption →
        ∃ error, .failed error = interruption ∧
          (error = .unknownOperator element.name ∨ error.IsContentFault ∨
            ∃ reference,
              error = .mismatchedReference reference (context.comparedSrid stored))) ∧
      (∀ name, (draft.addOperator context layer element).2 =
          Outcome.fail (.unknownOperator name) ↔
        name = element.name ∧ element.name ∉ SpatialOperator.all.map SpatialOperator.name) ∧
      (∀ operand envelope, Envelope.ofElement operand = .ok envelope →
        envelope.IsFinite ∧ ∀ srid, ∃ sql, Sql.boxLiteral envelope.lower.x envelope.lower.y
          envelope.upper.x envelope.upper.y srid = .ok sql) ∧
      ∀ operator comparator comparison error,
        SpatialOperator.ofName? element.name = some operator →
        operator.family = .distance comparator →
        context.comparison layer operator comparator element.elements = .ok comparison →
        Sql.number comparison.meters = .error error →
        ∃ limit value, HasLimit operator element limit ∧
          Overflows limit value comparison.meters ∧
          (draft.addOperator context layer element).2 =
            Outcome.fail (.malformedNumber comparison.meters.text) := by
  have fails_iff : ∀ interruption,
      (draft.addOperator context layer element).2 = .error interruption ↔
        ∃ error, context.Refuses stored element error ∧ .failed error = interruption :=
    fun _ => addOperator_eq_error_iff configured succeed
  refine ⟨fails_iff, ?_, ?_, ?_, ?_⟩
  · intro interruption failed
    obtain ⟨error, refuses, shown⟩ := (fails_iff interruption).mp failed
    exact ⟨error, shown, refuses.kind⟩
  · intro name
    rw [← @Context.Refuses.unknownOperator_iff context stored, Outcome.fail, fails_iff]
    simp
  · intro operand envelope read
    have finite := (Envelope.ofElement_yields operand).value envelope read
    exact ⟨finite, finite.exists_boxLiteral⟩
  · intro operator comparator comparison error named family compared unwritten
    obtain ⟨limit, value, has, overflows, failed⟩ :=
      overflows_of_number_error configured succeed named family compared unwritten
    refine ⟨limit, value, has, overflows, ?_⟩
    rw [addOperator_eq, failed]
    rfl

/-- The service of roads with collaborators that have an answer for everything. -/
def answeringContext : Context :=
  { roadContext with columns := ColumnMap.ofTable, geometries := fun _ => .ok "POINT EMPTY" }

/-- The roads within more kilometres than there are metres. -/
def endlessElement : Element :=
  ⟨"DWithin", [], [.element "PropertyName" [] [.text "geom"], .element "Point" [] [],
    .element "Distance" [("units", "kilometers")] [.text "1e306"]]⟩

/-- The product overflows and is refused as a number, while an element that is no operator is
refused by its name. -/
theorem endless_distance_is_refused :
    (Draft.empty.addOperator answeringContext "roads" endlessElement).2 =
        Outcome.fail (.malformedNumber "inf") ∧
      (Draft.empty.addOperator answeringContext "roads" degreeEnvelope).2 =
        Outcome.fail (.unknownOperator "Envelope") := by
  have succeed : answeringContext.CollaboratorsSucceed "roads" :=
    ⟨fun _ => ⟨_, rfl⟩, fun _ => ⟨_, rfl⟩⟩
  obtain ⟨-, -, -, -, distances⟩ := @errors_come_from_the_element answeringContext "roads" roadLayer
    rfl succeed endlessElement Draft.empty
  obtain ⟨-, -, unknown, -, -⟩ := @errors_come_from_the_element answeringContext "roads" roadLayer
    rfl succeed degreeEnvelope Draft.empty
  constructor
  · have compared : answeringContext.comparison "roads" .distanceWithin "<"
        endlessElement.elements =
          .ok ⟨"ST_Distance(ST_centroid(\"roads\".\"geom\"),ST_centroid('POINT EMPTY')) < ",
            .infinity false, none⟩ :=
      eq_ok_of_toOption (by decide +kernel)
    obtain ⟨-, -, -, -, refused⟩ := distances .distanceWithin "<" _ _ rfl rfl compared rfl
    exact refused
  · exact (unknown "Envelope").mpr ⟨rfl, by decide⟩

end SpatialFilter
