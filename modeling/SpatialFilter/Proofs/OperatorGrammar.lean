import SpatialFilter.Proofs.Numerals
import SpatialFilter.Proofs.SharedReference

/-!
# The operators that compile

Which operator elements compile, and to which SQL, can be told from their operands alone.
`Context.Admits` says so in three rules, one for each family, without the order in which operands
are looked at and without errors.  For a configured layer the compilation accepts exactly the
elements of these rules and gives exactly their SQL (`operator_compiles_iff_admitted`).

The families differ on purpose: an envelope is compiled as such when a column is compared with it
and translated like any other geometry when a distance to it is measured, and a column is converted
to the srid of the request in the first case only.
-/

namespace SpatialFilter

open SpatialFilter.Number
open SpatialFilter.Markup

/-! ## The rules -/

/-- The operators that are predicates on a column and a geometry. -/
def topologicalNames : List String :=
  ["Equals", "Disjoint", "Touches", "Within", "Overlaps", "Crosses", "Intersects", "Contains"]

/-- The operators that compare a distance with a limit, and how. -/
def distanceComparators : List (String × String) :=
  [("DWithin", "<"), ("Beyond", ">")]

/-- The element stands for a property of the layer. -/
def NamesProperty (element : Element) : Prop :=
  element.name = "PropertyName" ∨ element.name = "ValueReference"

/-- The property that such an element names: its text, blanks around it aside. -/
def propertyName (element : Element) : String :=
  String.ofList (Text.trim element.text.toList)

/-- A number of some unit in metres.  Only kilometres are converted. -/
def inMeters (unit : Option String) (value : Binary64) : Binary64 :=
  if unit = some "kilometers" ∨ unit = some "#kilometre" then
    value.mul (Decimal.toBinary64 ⟨1000, 0⟩ false)
  else value

/-- The function that measures distances between the points of a layer. -/
def Layer.measure (layer : Layer) : String :=
  if layer.isAngular then "ST_Distance_sphere" else "ST_Distance"

namespace Context

/-- The element names a property that resolves to the column. -/
structure NamesColumn (context : Context) (layer : String) (element : Element)
    (column : String) : Prop where
  named : NamesProperty element
  resolved : context.columns layer (propertyName element) = .ok column

/-- The element stands for no property and is translated to the text. -/
structure Translates (context : Context) (element : Element) (text : String) : Prop where
  noProperty : ¬ NamesProperty element
  translated : context.geometries element = .ok text

/-- The SQL of an operand that a column is compared with. -/
inductive ComparesWith (context : Context) (layer : String) (operand : Element) : String → Prop
  | envelope {sql : String} (writes : writesEnvelope operand = true)
      (compiled : context.envelopeLiteral layer operand = .ok sql) :
      ComparesWith context layer operand sql
  | geometry {text : String} (noEnvelope : writesEnvelope operand = false)
      (translates : context.Translates operand text) :
      ComparesWith context layer operand (Sql.textLiteral text)

/-- The column of a layer in the srid that is compared in. -/
def comparedColumn (context : Context) (stored : Layer) (column : String) : String :=
  if context.comparedSrid stored = stored.srid then column
  else "st_transform(" ++ column ++ "," ++ int32Text (context.comparedSrid stored) ++ ")"

end Context

/-- The element is a limit of so many metres, which is a finite number like the one that is written
there. -/
structure LimitsTo (element : Element) (meters : Binary64) : Prop where
  named : element.name = "Distance"
  written : ∃ value, Binary64.read? (Text.trim element.text.toList) = some value ∧
    value.isFinite = true ∧ inMeters (element.attribute? "units") value = meters
  finite : meters.isFinite = true

/-- The operator elements that compile for a layer which is stored as given, each with its SQL.
Child elements beyond those that a rule mentions do not count. -/
inductive Context.Admits (context : Context) (layer : String) (stored : Layer)
    (element : Element) : String → Prop
  | topological {property operand : Element} {column geometry : String}
      (named : element.name ∈ topologicalNames)
      (first : element.elements[0]? = some property)
      (resolves : context.NamesColumn layer property column)
      (second : element.elements[1]? = some operand)
      (compares : context.ComparesWith layer operand geometry) :
      Admits context layer stored element
        ("ST_" ++ element.name ++ "(" ++ context.comparedColumn stored column ++ "," ++
          geometry ++ ")")
  | box {property operand : Element} {column envelope : String}
      (named : element.name = "BBOX")
      (first : element.elements[0]? = some property)
      (resolves : context.NamesColumn layer property column)
      (second : element.elements[1]? = some operand)
      (writes : writesEnvelope operand = true)
      (compiled : context.envelopeLiteral layer operand = .ok envelope) :
      Admits context layer stored element
        ("st_intersects(" ++ context.comparedColumn stored column ++ "," ++ envelope ++ ")")
  | distance {property operand limit : Element} {comparator column text : String}
      {meters : Binary64}
      (named : (element.name, comparator) ∈ distanceComparators)
      (first : element.elements[0]? = some property)
      (resolves : context.NamesColumn layer property column)
      (second : element.elements[1]? = some operand)
      (translates : context.Translates operand text)
      (third : element.elements[2]? = some limit)
      (limits : LimitsTo limit meters) :
      Admits context layer stored element
        (stored.measure ++ "(ST_centroid(" ++ column ++ "),ST_centroid(" ++
          Sql.textLiteral text ++ ")) " ++ comparator ++ " " ++ meters.text)

/-! ## Names of operators -/

theorem ofName?_eq_some_iff {name : String} {operator : SpatialOperator} :
    SpatialOperator.ofName? name = some operator ↔ operator.name = name := by
  constructor
  · intro found
    simpa using List.find?_some found
  · rintro rfl
    cases operator <;> decide

/-- The predicates are the operators of these names, each with its name behind `ST_`. -/
theorem topological_iff {name predicate : String} :
    (∃ operator, SpatialOperator.ofName? name = some operator ∧
        operator.family = .topological predicate) ↔
      name ∈ topologicalNames ∧ predicate = "ST_" ++ name := by
  constructor
  · rintro ⟨operator, named, family⟩
    rw [ofName?_eq_some_iff] at named
    subst named
    cases operator <;> cases family <;> decide
  · rintro ⟨listed, rfl⟩
    revert name
    decide

/-- The operators on distances are those listed, each with its comparison. -/
theorem distance_iff {name comparator : String} :
    (∃ operator, SpatialOperator.ofName? name = some operator ∧
        operator.family = .distance comparator) ↔
      (name, comparator) ∈ distanceComparators := by
  constructor
  · rintro ⟨operator, named, family⟩
    rw [ofName?_eq_some_iff] at named
    subst named
    cases operator <;> cases family <;> decide
  · intro listed
    simp only [distanceComparators, List.mem_cons, Prod.mk.injEq, List.not_mem_nil,
      or_false] at listed
    rcases listed with ⟨rfl, rfl⟩ | ⟨rfl, rfl⟩
    · exact ⟨.distanceWithin, rfl, rfl⟩
    · exact ⟨.beyond, rfl, rfl⟩

/-- Only one operator intersects with a box. -/
theorem box_iff {name : String} :
    (∃ operator, SpatialOperator.ofName? name = some operator ∧ operator.family = .box) ↔
      name = "BBOX" := by
  constructor
  · rintro ⟨operator, named, family⟩
    rw [ofName?_eq_some_iff] at named
    subst named
    cases operator with
    | box => rfl
    | _ => cases family
  · rintro rfl
    exact ⟨.box, rfl, rfl⟩

/-! ## Operands -/

theorem ofElement_of_namesProperty {element : Element} (named : NamesProperty element) :
    Operand.ofElement element = .property (propertyName element) :=
  if_pos named

theorem ofElement_of_other {element : Element} (noProperty : ¬ NamesProperty element)
    (noEnvelope : writesEnvelope element = false) :
    Operand.ofElement element = .geometry element := by
  have kept : Operand.ofElement element =
      if writesEnvelope element then .envelope element else .geometry element := if_neg noProperty
  simp [kept, noEnvelope]

/-- An envelope stands for no property. -/
theorem not_namesProperty_of_writesEnvelope {element : Element}
    (writes : writesEnvelope element = true) : ¬ NamesProperty element := by
  intro named
  have kind := ofElement_of_namesProperty named
  rw [Operand.ofElement_of_writesEnvelope writes] at kind
  cases kind

/-- The three kinds of operands. -/
theorem namesProperty_or_writesEnvelope_or_other (element : Element) :
    NamesProperty element ∨ writesEnvelope element = true ∨
      (¬ NamesProperty element ∧ writesEnvelope element = false) := by
  by_cases named : NamesProperty element
  · exact Or.inl named
  · cases writes : writesEnvelope element with
    | true => exact Or.inr (Or.inl rfl)
    | false => exact Or.inr (Or.inr ⟨named, rfl⟩)

section Operands

variable {context : Context} {layer : String} {operator : SpatialOperator}
  {operand : Option Element} {sql : String}

theorem operandColumn_eq_ok_iff :
    context.operandColumn layer operator operand = .ok sql ↔
      ∃ property, operand = some property ∧ context.NamesColumn layer property sql := by
  cases operand with
  | none => simp [Context.operandColumn, Outcome.fail]
  | some element =>
    simp only [Context.operandColumn, Option.map_some, Option.some.injEq, exists_eq_left']
    rcases namesProperty_or_writesEnvelope_or_other element with named | writes | ⟨other, plain⟩
    · rw [ofElement_of_namesProperty named]
      exact ⟨fun resolved => ⟨named, resolved⟩, fun names => names.resolved⟩
    · rw [Operand.ofElement_of_writesEnvelope writes]
      exact ⟨nofun, fun names => absurd names.named (not_namesProperty_of_writesEnvelope writes)⟩
    · rw [ofElement_of_other other plain]
      exact ⟨nofun, fun names => absurd names.named other⟩

theorem geometryLiteral_eq_ok_iff {element : Element} :
    context.geometryLiteral element = .ok sql ↔
      ∃ text, context.geometries element = .ok text ∧ sql = Sql.textLiteral text := by
  unfold Context.geometryLiteral
  rw [bind_eq_ok]
  simp only [pure, Except.pure, Except.ok.injEq, eq_comm]

/-- An operand is compared with as an envelope or as a geometry, and never as a property. -/
theorem comparedOperand_eq_ok_iff :
    context.comparedOperand layer operator operand = .ok sql ↔
      ∃ element, operand = some element ∧ context.ComparesWith layer element sql := by
  cases operand with
  | none => simp [Context.comparedOperand, Outcome.fail]
  | some element =>
    simp only [Context.comparedOperand, Option.map_some, Option.some.injEq, exists_eq_left']
    rcases namesProperty_or_writesEnvelope_or_other element with named | writes | ⟨other, plain⟩
    · rw [ofElement_of_namesProperty named]
      constructor
      · intro compiled
        cases compiled
      · intro compares
        cases compares with
        | envelope writes => exact absurd named (not_namesProperty_of_writesEnvelope writes)
        | geometry plain translates => exact absurd named translates.noProperty
    · rw [Operand.ofElement_of_writesEnvelope writes]
      constructor
      · intro compiled
        exact .envelope writes compiled
      · intro compares
        cases compares with
        | envelope writes compiled => exact compiled
        | geometry plain translates => simp [writes] at plain
    · rw [ofElement_of_other other plain]
      dsimp only
      rw [geometryLiteral_eq_ok_iff]
      constructor
      · rintro ⟨text, translated, rfl⟩
        exact .geometry plain ⟨other, translated⟩
      · intro compares
        cases compares with
        | envelope writes => simp [writes] at plain
        | geometry plain translates => exact ⟨_, translates.translated, rfl⟩

theorem boxOperand_eq_ok_iff :
    context.boxOperand layer operand = .ok sql ↔
      ∃ element, operand = some element ∧ writesEnvelope element = true ∧
        context.envelopeLiteral layer element = .ok sql := by
  cases operand with
  | none => simp [Context.boxOperand, Outcome.fail]
  | some element =>
    simp only [Context.boxOperand, Option.map_some, Option.some.injEq, exists_eq_left']
    rcases namesProperty_or_writesEnvelope_or_other element with named | writes | ⟨other, plain⟩
    · have plain : writesEnvelope element ≠ true := fun writes =>
        not_namesProperty_of_writesEnvelope writes named
      rw [ofElement_of_namesProperty named]
      simp [plain, Outcome.fail]
    · rw [Operand.ofElement_of_writesEnvelope writes]
      simp [writes]
    · rw [ofElement_of_other other plain]
      simp [plain, Outcome.fail]

/-- Both an envelope and another geometry are translated. -/
theorem measuredOperand_of_other {element : Element} (noProperty : ¬ NamesProperty element) :
    context.measuredOperand operator (some element) = context.geometryLiteral element := by
  unfold Context.measuredOperand
  cases writes : writesEnvelope element with
  | true => simp [Operand.ofElement_of_writesEnvelope writes]
  | false => simp [ofElement_of_other noProperty writes]

/-- A distance is measured to whatever the translator has a text for. -/
theorem measuredOperand_eq_ok_iff :
    context.measuredOperand operator operand = .ok sql ↔
      ∃ element text, operand = some element ∧ context.Translates element text ∧
        sql = Sql.textLiteral text := by
  cases operand with
  | none => simp [Context.measuredOperand, Outcome.fail]
  | some element =>
    simp only [Option.some.injEq]
    by_cases named : NamesProperty element
    · simp only [Context.measuredOperand, Option.map_some, ofElement_of_namesProperty named]
      refine ⟨nofun, ?_⟩
      rintro ⟨_, text, rfl, translates, -⟩
      exact absurd named translates.noProperty
    · rw [measuredOperand_of_other named, geometryLiteral_eq_ok_iff]
      constructor
      · rintro ⟨text, translated, rfl⟩
        exact ⟨element, text, rfl, ⟨named, translated⟩, rfl⟩
      · rintro ⟨_, text, rfl, translates, rfl⟩
        exact ⟨text, translates.translated, rfl⟩

/-! ## Limits -/

theorem unitFactor_fst (unit : Option String) :
    (Context.unitFactor unit).1 =
      if unit = some "kilometers" ∨ unit = some "#kilometre" then
        some (Decimal.toBinary64 ⟨1000, 0⟩ false)
      else none := by
  unfold Context.unitFactor
  split
  next => rfl
  next => rfl
  next => rfl
  next => rfl
  next first second third fourth =>
    dsimp only
    rw [if_neg]
    rintro (rfl | rfl)
    · exact third rfl
    · exact fourth rfl

/-- A distance is its number in metres, with its unit where that is reported. -/
theorem readDistance_eq_ok_iff {element : Element} {meters : Binary64} {unit : Option String} :
    Context.readDistance element = .ok (meters, unit) ↔
      ∃ value, readNumber element.text.toList = .ok value ∧
        inMeters (element.attribute? "units") value = meters ∧
        (Context.unitFactor (element.attribute? "units")).2 = unit := by
  unfold Context.readDistance inMeters
  rw [bind_eq_ok]
  apply exists_congr
  intro value
  apply and_congr_right
  intro _
  dsimp only
  rw [unitFactor_fst]
  by_cases kilometers : element.attribute? "units" = some "kilometers" ∨
      element.attribute? "units" = some "#kilometre"
  · simp only [if_pos kilometers, pure, Except.pure, Except.ok.injEq, Prod.mk.injEq]
  · simp only [if_neg kilometers, pure, Except.pure, Except.ok.injEq, Prod.mk.injEq]

/-- A limit that can be written. -/
theorem limitOperand_eq_ok_iff {meters : Binary64} :
    (∃ unit, Context.limitOperand operator operand = .ok (meters, unit)) ∧
        meters.isFinite = true ↔
      ∃ limit, operand = some limit ∧ LimitsTo limit meters := by
  constructor
  · rintro ⟨⟨unit, limited⟩, finite⟩
    obtain ⟨limit, present, named, read⟩ := limitOperand_eq_ok limited
    obtain ⟨value, number, converted, -⟩ := readDistance_eq_ok_iff.mp read
    obtain ⟨numeral, value_finite⟩ := readNumber_eq_ok.mp number
    exact ⟨limit, present, named, ⟨value, numeral, value_finite, converted⟩, finite⟩
  · rintro ⟨limit, rfl, named, ⟨value, numeral, value_finite, converted⟩, finite⟩
    have number := readNumber_eq_ok.mpr ⟨numeral, value_finite⟩
    have read := readDistance_eq_ok_iff.mpr ⟨value, number, converted, rfl⟩
    refine ⟨⟨(Context.unitFactor (limit.attribute? "units")).2, ?_⟩, finite⟩
    simp only [Context.limitOperand, Option.filter_some, named, beq_self_eq_true, if_true]
    exact ofExcept_eq_ok.mpr read

end Operands

/-! ## Configured layers -/

section Configured

variable {context : Context} {layer : String} {stored : Layer}

/-- For a configured layer, a column is converted when it is stored in another srid than the one
compared in. -/
theorem convertedColumn_of_configured {operator : SpatialOperator} {operand : Option Element}
    {sql : String} (configured : context.catalog.get? layer = some stored) :
    context.convertedColumn layer operator operand = .ok sql ↔
      ∃ property column, operand = some property ∧ context.NamesColumn layer property column ∧
        context.comparedColumn stored column = sql := by
  rw [convertedColumn_eq_ok_iff, conversionSrid_of_configured configured]
  simp only [operandColumn_eq_ok_iff, Except.ok.injEq]
  have converted : ∀ column, conversionSql column
      (if context.comparedSrid stored = stored.srid then none
        else some (context.comparedSrid stored)) = context.comparedColumn stored column := by
    intro column
    unfold Context.comparedColumn
    by_cases same : context.comparedSrid stored = stored.srid
    · rw [if_pos same, if_pos same, conversionSql_none]
    · rw [if_neg same, if_neg same, conversionSql_some]
  constructor
  · rintro ⟨column, _, ⟨property, first, resolves⟩, rfl, rfl⟩
    exact ⟨property, column, first, resolves, (converted column).symm⟩
  · rintro ⟨property, column, first, resolves, rfl⟩
    exact ⟨column, _, ⟨property, first, resolves⟩, rfl, (converted column).symm⟩

theorem comparison_of_configured {operator : SpatialOperator} {comparator : String}
    {operands : List Element} {comparison : Comparison}
    (configured : context.catalog.get? layer = some stored) :
    context.comparison layer operator comparator operands = .ok comparison ↔
      ∃ column geometry,
        context.operandColumn layer operator operands[0]? = .ok column ∧
        context.measuredOperand operator operands[1]? = .ok geometry ∧
        Context.limitOperand operator operands[2]? =
          .ok (comparison.meters, comparison.unsupportedUnit) ∧
        stored.measure ++ "(ST_centroid(" ++ column ++ "),ST_centroid(" ++ geometry ++ ")) " ++
          comparator ++ " " = comparison.left := by
  have metric : context.catalog.isMetric layer = (.ok (!stored.isAngular) : Outcome Bool) := by
    simp [LayerCatalog.isMetric, LayerCatalog.require, configured, Except.map]
  have measure : (if !stored.isAngular then "ST_Distance" else "ST_Distance_sphere") =
      stored.measure := by
    unfold Layer.measure
    cases stored.isAngular <;> rfl
  rw [comparison_eq_ok_iff, metric]
  simp only [Except.ok.injEq, exists_eq_left', measure]

/-- An element that has a fragment follows one of the rules. -/
theorem admits_of_fragment (configured : context.catalog.get? layer = some stored)
    {element : Element} {fragment : Fragment}
    (complete : context.fragment layer element = .ok fragment) :
    context.Admits layer stored element fragment.sql := by
  cases Context.fragment_eq_ok_iff.mp complete with
  | topological operator predicate sql named family compiled =>
    obtain ⟨listed, rfl⟩ := topological_iff.mp ⟨operator, named, family⟩
    obtain ⟨column, geometry, converted, compared, rfl⟩ := topologicalSql_eq_ok_iff.mp compiled
    obtain ⟨property, column, first, resolves, rfl⟩ :=
      (convertedColumn_of_configured configured).mp converted
    obtain ⟨operand, second, compares⟩ := comparedOperand_eq_ok_iff.mp compared
    exact .topological listed first resolves second compares
  | box operator sql named family compiled =>
    obtain ⟨column, envelope, converted, boxed, rfl⟩ := boxSql_eq_ok_iff.mp compiled
    obtain ⟨property, column, first, resolves, rfl⟩ :=
      (convertedColumn_of_configured configured).mp converted
    obtain ⟨operand, second, writes, literal⟩ := boxOperand_eq_ok_iff.mp boxed
    exact .box (box_iff.mp ⟨operator, named, family⟩) first resolves second writes literal
  | distance operator comparator comparison _ named family compared written =>
    obtain ⟨finite, rfl⟩ := comparisonFragment_eq_ok_iff.mp written
    obtain ⟨column, geometry, resolved, translated, limited, left_eq⟩ :=
      (comparison_of_configured configured).mp compared
    obtain ⟨property, first, resolves⟩ := operandColumn_eq_ok_iff.mp resolved
    obtain ⟨operand, text, second, translates, rfl⟩ := measuredOperand_eq_ok_iff.mp translated
    obtain ⟨limit, third, limits⟩ := limitOperand_eq_ok_iff.mp ⟨⟨_, limited⟩, finite⟩
    rw [← left_eq]
    exact .distance (distance_iff.mp ⟨operator, named, family⟩) first resolves second translates
      third limits

/-- An element that follows a rule has a fragment with the SQL of the rule. -/
theorem exists_fragment_of_admits (configured : context.catalog.get? layer = some stored)
    {element : Element} {sql : String} (admitted : context.Admits layer stored element sql) :
    ∃ fragment, context.fragment layer element = .ok fragment ∧ fragment.sql = sql := by
  cases admitted with
  | @topological property operand column geometry listed first resolves second compares =>
    obtain ⟨operator, named, family⟩ := topological_iff.mpr ⟨listed, rfl⟩
    have converted : context.convertedColumn layer operator element.elements[0]? =
        .ok (context.comparedColumn stored column) :=
      (convertedColumn_of_configured configured).mpr ⟨property, column, first, resolves, rfl⟩
    have compared : context.comparedOperand layer operator element.elements[1]? = .ok geometry :=
      comparedOperand_eq_ok_iff.mpr ⟨operand, second, compares⟩
    have compiled : context.topologicalSql layer operator ("ST_" ++ element.name)
        element.elements = .ok _ :=
      topologicalSql_eq_ok_iff.mpr ⟨_, _, converted, compared, rfl⟩
    exact ⟨_, Context.fragment_eq_ok_iff.mpr (.topological operator _ _ named family compiled), rfl⟩
  | @box property operand column envelope listed first resolves second writes literal =>
    obtain ⟨operator, named, family⟩ := box_iff.mpr listed
    have converted : context.convertedColumn layer .box element.elements[0]? =
        .ok (context.comparedColumn stored column) :=
      (convertedColumn_of_configured configured).mpr ⟨property, column, first, resolves, rfl⟩
    have boxed := boxOperand_eq_ok_iff.mpr ⟨operand, second, writes, literal⟩
    have compiled := boxSql_eq_ok_iff.mpr ⟨_, _, converted, boxed, rfl⟩
    exact ⟨_, Context.fragment_eq_ok_iff.mpr (.box operator _ named family compiled), rfl⟩
  | @distance property operand limit comparator column text meters listed first resolves second
      translates third limits =>
    obtain ⟨operator, named, family⟩ := distance_iff.mpr listed
    have limited : (∃ unit, Context.limitOperand operator element.elements[2]? =
        .ok (meters, unit)) ∧ meters.isFinite = true :=
      limitOperand_eq_ok_iff.mpr ⟨limit, third, limits⟩
    obtain ⟨⟨unit, limited⟩, finite⟩ := limited
    have resolved : context.operandColumn layer operator element.elements[0]? = .ok column :=
      operandColumn_eq_ok_iff.mpr ⟨property, first, resolves⟩
    have translated : context.measuredOperand operator element.elements[1]? =
        .ok (Sql.textLiteral text) :=
      measuredOperand_eq_ok_iff.mpr ⟨operand, text, second, translates, rfl⟩
    let comparison : Comparison := ⟨stored.measure ++ "(ST_centroid(" ++ column ++
      "),ST_centroid(" ++ Sql.textLiteral text ++ ")) " ++ comparator ++ " ", meters, unit⟩
    have compared : context.comparison layer operator comparator element.elements =
        .ok comparison :=
      (comparison_of_configured configured).mpr
        ⟨column, _, resolved, translated, limited, rfl⟩
    have written : Context.comparisonFragment comparison =
        .ok ⟨comparison.left ++ meters.text, unit⟩ :=
      comparisonFragment_eq_ok_iff.mpr ⟨finite, rfl⟩
    exact ⟨_, Context.fragment_eq_ok_iff.mpr
      (.distance operator comparator comparison _ named family compared written), rfl⟩

end Configured

/-- For a configured layer an operator element compiles exactly when it follows one of the rules.
On an empty draft it leaves exactly the SQL of the rule, and no error but an unsupported unit of its
limit. -/
theorem operator_compiles_iff_admitted {context : Context} {layer : String} {stored : Layer}
    (configured : context.catalog.get? layer = some stored) (element : Element) :
    ((Draft.empty.addOperator context layer element).2 = .ok () ↔
        ∃ sql, context.Admits layer stored element sql) ∧
      ∀ after, Draft.empty.addOperator context layer element = (after, .ok ()) ↔
        context.Admits layer stored element after.sql ∧
          after.error = (unsupportedUnit? element).map .unsupportedUnit := by
  have exactly : ∀ after, Draft.empty.addOperator context layer element = (after, .ok ()) ↔
      context.Admits layer stored element after.sql ∧
        after.error = (unsupportedUnit? element).map .unsupportedUnit := by
    intro after
    rw [addOperator_eq_ok_iff]
    simp only [Draft.addFragment_eq, Draft.empty, String.empty_append, Option.none_or]
    constructor
    · rintro ⟨fragment, complete, rfl⟩
      exact ⟨admits_of_fragment configured complete, by rw [fragment_unit complete]⟩
    · rintro ⟨admitted, noted⟩
      obtain ⟨fragment, complete, sql_eq⟩ := exists_fragment_of_admits configured admitted
      refine ⟨fragment, complete, ?_⟩
      rw [fragment_unit complete, sql_eq, ← noted]
  refine ⟨?_, exactly⟩
  constructor
  · intro succeeded
    exact ⟨_, ((exactly _).mp (Prod.ext rfl succeeded)).1⟩
  · rintro ⟨sql, admitted⟩
    have left := (exactly ⟨sql, (unsupportedUnit? element).map .unsupportedUnit⟩).mpr
      ⟨admitted, rfl⟩
    rw [left]

/-! ## Roads near an envelope -/

/-- A service of roads whose translator takes any geometry for its first position. -/
def positionContext : Context :=
  { roadContext with geometries := GeometryReader.referencedPoint }

/-- The roads within one and a half kilometres of an envelope. -/
def nearbyElement : Element :=
  ⟨"DWithin", [], [.element "PropertyName" [] [.text " geom "], degreeEnvelope.toNode,
    .element "Distance" [("units", "kilometers")] [.text "1.5"]]⟩

/-- The roads in a point, which is no envelope. -/
def pointedElement : Element :=
  ⟨"BBOX", [], [.element "PropertyName" [] [.text "geom"],
    .element "Point" [] [.element "pos" [] [.text "1 2"]]]⟩

/-- A distance to an envelope is measured in the reference of the layer, whatever the request asks
for, while a point cannot stand for an envelope. -/
theorem envelope_is_translated_for_distances :
    positionContext.Admits "roads" roadLayer nearbyElement
        "ST_Distance(ST_centroid(\"geom\"),ST_centroid(\x27SRID=4326;POINT(1 2)\x27)) < 1500" ∧
      ∀ sql, ¬ positionContext.Admits "roads" roadLayer pointedElement sql := by
  obtain ⟨-, exactly⟩ :=
    @operator_compiles_iff_admitted positionContext "roads" roadLayer rfl nearbyElement
  obtain ⟨compiles, -⟩ :=
    @operator_compiles_iff_admitted positionContext "roads" roadLayer rfl pointedElement
  constructor
  · have compiled : Draft.empty.addOperator positionContext "roads" nearbyElement =
        (⟨"ST_Distance(ST_centroid(\"geom\"),ST_centroid(\x27SRID=4326;POINT(1 2)\x27)) < 1500",
          none⟩, .ok ()) :=
      eq_ok_of_fst (by decide +kernel) (by decide +kernel)
    exact ((exactly _).mp compiled).1
  · intro sql admitted
    have ended : (Draft.empty.addOperator positionContext "roads" pointedElement).2 =
        Outcome.fail (.structural .noEnvelope) := by
      rfl
    have succeeded := compiles.mpr ⟨sql, admitted⟩
    rw [ended] at succeeded
    cases succeeded

end SpatialFilter
