import SpatialFilter.Proofs.Fragment
import SpatialFilter.Proofs.SqlTokens

/-!
# The SQL around translated geometries

The text of a translated geometry comes from outside, and it reaches the database inside one
literal of a fragment.  The SQL around that literal does not depend on the text
(`fragment_reading`), and it leaves no quotes open in front of it and has none behind it
(`frame_open`).
-/

namespace SpatialFilter

open SpatialFilter.Number
open SpatialFilter.Markup
open SpatialFilter.Sql

/-- The context with another translator of geometries. -/
def Context.reading (context : Context) (reader : GeometryReader) : Context :=
  { context with geometries := reader }

/-- The operator of an element hands its second operand to the translator. -/
def translates (element operand : Element) : Bool :=
  match (SpatialOperator.ofName? element.name).map SpatialOperator.family,
      Operand.ofElement operand with
  | some (.topological _), .geometry _ => true
  | some (.distance _), .geometry _ => true
  | some (.distance _), .envelope _ => true
  | _, _ => false

/-- The SQL around a translated geometry. -/
structure Frame where
  before : String
  after : String
  unsupportedUnit : Option String

/-- The fragment with a geometry in the frame. -/
def Frame.fill (frame : Frame) (geometry : String) : Fragment :=
  ⟨frame.before ++ geometry ++ frame.after, frame.unsupportedUnit⟩

namespace Context

/-- The frame of an operator element, for all translators. -/
def frame (context : Context) (layer : String) (element : Element) : Outcome Frame :=
  match SpatialOperator.ofName? element.name with
  | none => Outcome.fail (.unknownOperator element.name)
  | some operator =>
    match operator.family with
    | .topological predicate => do
      let column ← context.convertedColumn layer operator element.elements[0]?
      return ⟨predicate ++ "(" ++ column ++ ",", ")", none⟩
    | .distance comparator => do
      let metric ← context.catalog.isMetric layer
      let measure := if metric then "ST_Distance" else "ST_Distance_sphere"
      let column ← context.operandColumn layer operator element.elements[0]?
      let (meters, unsupported) ← limitOperand operator element.elements[2]?
      let limit ← rendered (Sql.number meters)
      return ⟨measure ++ "(ST_centroid(" ++ column ++ "),ST_centroid(",
        ")) " ++ comparator ++ " " ++ limit, unsupported⟩
    | .box => Outcome.fail (.structural .noEnvelope)

end Context

/-! ## The frame does not depend on the text -/

theorem Operand.ofElement_geometry {element other : Element}
    (operand : Operand.ofElement element = .geometry other) : other = element := by
  unfold Operand.ofElement at operand
  split at operand
  · cases operand
  · split at operand
    · cases operand
    · cases operand
      rfl

theorem Operand.ofElement_envelope {element other : Element}
    (operand : Operand.ofElement element = .envelope other) : other = element := by
  unfold Operand.ofElement at operand
  split at operand
  · cases operand
  · split at operand
    · cases operand
      rfl
    · cases operand

theorem geometryLiteral_reading {context : Context} {reader : GeometryReader} {operand : Element}
    {text : String} (answer : reader operand = .ok text) :
    (context.reading reader).geometryLiteral operand = .ok (textLiteral text) := by
  simp only [Context.geometryLiteral, Context.reading, answer]
  rfl

/-- A topological predicate has the text of the geometry in its literal and nowhere else. -/
theorem topologicalSql_reading {context : Context} {layer predicate text : String}
    {operator : SpatialOperator} {operands : List Element} {operand : Element}
    {reader : GeometryReader} (second : operands[1]? = some operand)
    (geometry : Operand.ofElement operand = .geometry operand)
    (answer : reader operand = .ok text) :
    (context.reading reader).topologicalSql layer operator predicate operands = (do
      let column ← context.convertedColumn layer operator operands[0]?
      return predicate ++ "(" ++ column ++ "," ++ textLiteral text ++ ")") := by
  have literal : (context.reading reader).comparedOperand layer operator operands[1]? =
      .ok (textLiteral text) := by
    simp only [Context.comparedOperand, second, Option.map_some, geometry]
    exact geometryLiteral_reading answer
  unfold Context.topologicalSql
  rw [literal]
  rfl

theorem measuredOperand_reading {context : Context} {operator : SpatialOperator}
    {operand : Element} {reader : GeometryReader} {text : String}
    (noProperty : ∀ name, Operand.ofElement operand ≠ .property name)
    (answer : reader operand = .ok text) :
    (context.reading reader).measuredOperand operator (some operand) = .ok (textLiteral text) := by
  simp only [Context.measuredOperand, Option.map_some]
  cases kind : Operand.ofElement operand with
  | property name => exact absurd kind (noProperty name)
  | envelope element =>
    rw [Operand.ofElement_envelope kind]
    exact geometryLiteral_reading answer
  | geometry element =>
    rw [Operand.ofElement_geometry kind]
    exact geometryLiteral_reading answer

/-- A comparison of distances has the text of the geometry in its literal and nowhere else. -/
theorem comparison_reading {context : Context} {layer comparator text : String}
    {operator : SpatialOperator} {operands : List Element} {operand : Element}
    {reader : GeometryReader} (second : operands[1]? = some operand)
    (noProperty : ∀ name, Operand.ofElement operand ≠ .property name)
    (answer : reader operand = .ok text) :
    (context.reading reader).comparison layer operator comparator operands = (do
      let metric ← context.catalog.isMetric layer
      let measure := if metric then "ST_Distance" else "ST_Distance_sphere"
      let column ← context.operandColumn layer operator operands[0]?
      let (meters, unsupported) ← Context.limitOperand operator operands[2]?
      return ⟨measure ++ "(ST_centroid(" ++ column ++ "),ST_centroid(" ++ textLiteral text ++
        ")) " ++ comparator ++ " ", meters, unsupported⟩) := by
  unfold Context.comparison
  rw [second, measuredOperand_reading noProperty answer]
  rfl

/-- With a text for its second operand, an operator that translates it gives the frame with that
text as a literal. -/
theorem fragment_reading {context : Context} {layer : String} {element operand : Element}
    {reader : GeometryReader} {text : String} (second : element.elements[1]? = some operand)
    (handed : translates element operand = true) (answer : reader operand = .ok text) :
    (context.reading reader).fragment layer element =
      (context.frame layer element).map fun frame => frame.fill (textLiteral text) := by
  unfold translates at handed
  unfold Context.fragment Context.frame
  cases named : SpatialOperator.ofName? element.name with
  | none => rfl
  | some operator =>
    cases family : operator.family with
    | topological predicate =>
      cases kind : Operand.ofElement operand with
      | geometry other =>
        have whole := Operand.ofElement_geometry kind
        subst whole
        simp only [family, topologicalSql_reading second kind answer]
        cases context.convertedColumn layer operator element.elements[0]? <;> rfl
      | property name => simp [named, family, kind] at handed
      | envelope other => simp [named, family, kind] at handed
    | distance comparator =>
      have noProperty : ∀ name, Operand.ofElement operand ≠ .property name := by
        intro name kind
        simp [named, family, kind] at handed
      simp only [family, comparison_reading second noProperty answer]
      cases context.catalog.isMetric layer with
      | error interruption => rfl
      | ok metric =>
        cases context.operandColumn layer operator element.elements[0]? with
        | error interruption => rfl
        | ok column =>
          cases Context.limitOperand operator element.elements[2]? with
          | error interruption => rfl
          | ok limit =>
            simp only [bind, Except.bind, pure, Except.pure, Context.comparisonFragment]
            cases rendered (Sql.number limit.1) with
            | error interruption => rfl
            | ok number => simp [Except.map, Frame.fill, String.append_assoc]
    | box => simp [named, family] at handed

/-- An operator that does not hand its second operand to the translator never asks it. -/
theorem fragment_reading_unasked {context : Context} {layer : String} {element operand : Element}
    (second : element.elements[1]? = some operand) (kept : translates element operand = false)
    (reader : GeometryReader) :
    (context.reading reader).fragment layer element = context.fragment layer element := by
  unfold translates at kept
  unfold Context.fragment
  cases named : SpatialOperator.ofName? element.name with
  | none => rfl
  | some operator =>
    cases family : operator.family with
    | topological predicate =>
      have same : (context.reading reader).comparedOperand layer operator element.elements[1]? =
          context.comparedOperand layer operator element.elements[1]? := by
        unfold Context.comparedOperand
        cases kind : Operand.ofElement operand with
        | property name => simp [second, kind]
        | envelope other => simp [second, kind]; rfl
        | geometry other => simp [named, family, kind] at kept
      simp only [family, Context.topologicalSql, same]
      rfl
    | distance comparator =>
      have same : (context.reading reader).measuredOperand operator element.elements[1]? =
          context.measuredOperand operator element.elements[1]? := by
        unfold Context.measuredOperand
        cases kind : Operand.ofElement operand with
        | property name => simp [second, kind]
        | envelope other => simp [named, family, kind] at kept
        | geometry other => simp [named, family, kind] at kept
      simp only [family, Context.comparison, same]
      rfl
    | box =>
      simp only [family]
      rfl

/-! ## The quotes of the frame -/

theorem predicate_quoteFree {operator : SpatialOperator} {predicate : String}
    (family : operator.family = .topological predicate) : QuoteFree (predicate ++ "(").toList := by
  cases operator <;> simp only [SpatialOperator.family, OperatorFamily.topological.injEq,
    reduceCtorEq] at family <;> subst family <;> decide

theorem comparator_quoteFree {operator : SpatialOperator} {comparator : String}
    (family : operator.family = .distance comparator) :
    QuoteFree (")) " ++ comparator ++ " ").toList := by
  cases operator <;> simp only [SpatialOperator.family, OperatorFamily.distance.injEq,
    reduceCtorEq] at family <;> subst family <;> decide

/-- Numbers hold no quotes. -/
theorem quoteFree_of_digits {text : List Char}
    (digits : ∀ c ∈ text, c.isDigit = true ∨ c = '.' ∨ c = '-') : QuoteFree text := by
  intro c member
  unfold Quote.ofChar?
  rcases digits c member with digit | rfl | rfl
  · rw [if_neg, if_neg]
    · rintro rfl
      cases digit
    · rintro rfl
      cases digit
  · rfl
  · rfl

theorem int32Text_quoteFree (value : Int32) : QuoteFree (int32Text value).toList :=
  quoteFree_of_digits fun _ member => (int32Text_chars member).imp_right Or.inr

/-- A number that can be written holds no quote. -/
theorem number_quoteFree {value : Binary64} {text : String}
    (written : rendered (Sql.number value) = .ok text) : QuoteFree text.toList := by
  unfold rendered at written
  rw [mapError_eq_ok] at written
  obtain ⟨finite, rfl⟩ := number_eq_ok_iff.mp written
  exact quoteFree_of_digits fun _ member => Binary64.text_chars finite member

/-- A column that closes its quotes still does when it is converted. -/
theorem convertedColumn_endsOutside {context : Context} {layer : String}
    {operator : SpatialOperator} {operand : Option Element}
    (closed : ∀ column, context.operandColumn layer operator operand = .ok column →
      EndsOutside column)
    {column : String} (converted : context.convertedColumn layer operator operand = .ok column) :
    EndsOutside column := by
  obtain ⟨plain, conversion, named, -, rfl⟩ := convertedColumn_eq_ok_iff.mp converted
  cases conversion with
  | none => exact closed _ named
  | some srid =>
    have before : QuoteFree "st_transform(".toList := by decide
    have after : QuoteFree ("," ++ int32Text srid ++ ")").toList := by
      have comma : QuoteFree ",".toList := by decide
      have bracket : QuoteFree ")".toList := by decide
      rw [String.toList_append, String.toList_append]
      exact (comma.append (int32Text_quoteFree srid)).append bracket
    have scanned := scan_around before (closed plain named) after (by simp)
    unfold EndsOutside
    simp only [conversionSql_some, String.append_assoc] at scanned ⊢
    rw [scanned]
    rfl

/-- In front of the literal of a frame no quotes are open, and behind it there are none. -/
theorem frame_open {context : Context} {layer : String} {element : Element} {frame : Frame}
    (framed : context.frame layer element = .ok frame)
    (closed : ∀ operator column,
      context.operandColumn layer operator element.elements[0]? = .ok column →
        EndsOutside column) :
    (scan .plain frame.before.toList).1 = .plain ∧ QuoteFree frame.after.toList := by
  unfold Context.frame at framed
  cases named : SpatialOperator.ofName? element.name with
  | none => rw [named] at framed; cases framed
  | some operator =>
    simp only [named] at framed
    cases family : operator.family with
    | topological predicate =>
      simp only [family] at framed
      obtain ⟨column, converted, framed⟩ := bind_eq_ok.mp framed
      cases framed
      have whole := convertedColumn_endsOutside (closed operator) converted
      have comma : QuoteFree ",".toList := by decide
      have bracket : QuoteFree ")".toList := by decide
      exact ⟨scan_around (predicate_quoteFree family) whole comma (by decide), bracket⟩
    | distance comparator =>
      simp only [family] at framed
      obtain ⟨metric, -, framed⟩ := bind_eq_ok.mp framed
      obtain ⟨column, column_eq, framed⟩ := bind_eq_ok.mp framed
      obtain ⟨⟨meters, unsupported⟩, -, framed⟩ := bind_eq_ok.mp framed
      obtain ⟨limit, written, framed⟩ := bind_eq_ok.mp framed
      cases framed
      have measure : QuoteFree ((if metric then "ST_Distance" else "ST_Distance_sphere") ++
          "(ST_centroid(").toList := by
        cases metric <;> decide
      have centroid : QuoteFree "),ST_centroid(".toList := by decide
      constructor
      · exact scan_around measure (closed operator column column_eq) centroid (by decide)
      · rw [String.toList_append]
        exact (comparator_quoteFree family).append (number_quoteFree written)
    | box => simp only [family] at framed; cases framed

end SpatialFilter
