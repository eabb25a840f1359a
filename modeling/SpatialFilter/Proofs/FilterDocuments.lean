import SpatialFilter.Proofs.ConfiguredLayers
import SpatialFilter.Proofs.DraftRuns

/-!
# Filter documents

The document of a filter is compiled on an empty draft, and what the compilation itself returns is
not looked at: the draft alone decides.  That is sound because the draft never says less than the
result.  A failure is noted as it is returned, and a unit that is not supported is noted only where
the fragment is completed (`addOperator_ending`), so no note hides a later failure.  An element
`Filter` around the operator changes nothing (`compileDocument_eq`).
-/

namespace SpatialFilter

open SpatialFilter.Number
open SpatialFilter.Markup

/-! ## How an operator ends -/

/-- A complete fragment has text. -/
theorem fragment_sql_ne_empty {context : Context} {layer : String} {element : Element}
    {fragment : Fragment} (complete : context.fragment layer element = .ok fragment) :
    fragment.sql ≠ "" := by
  cases Context.fragment_eq_ok_iff.mp complete with
  | topological operator predicate sql named family compiled =>
    obtain ⟨column, geometry, -, -, rfl⟩ := topologicalSql_eq_ok_iff.mp compiled
    simp
  | distance operator comparator comparison _ named family compared written =>
    obtain ⟨-, rfl⟩ := comparisonFragment_eq_ok_iff.mp written
    obtain ⟨metric, -, column, geometry, -, -, -, left_eq⟩ := comparison_eq_ok_iff.mp compared
    simp [← left_eq]
  | box operator sql named family compiled =>
    obtain ⟨column, envelope, -, -, rfl⟩ := boxSql_eq_ok_iff.mp compiled
    simp

/-- A compilation that fails has noted nothing before, and added nothing. -/
theorem compileOperator_failed {context : Context} {layer : String} {element : Element}
    {interruption : Interruption FilterError} {draft after : Draft}
    (failed : (context.compileOperator layer element).run.run draft =
      (.error interruption, after)) : after = draft := by
  rw [compileOperator_run] at failed
  unfold Draft.afterFragment at failed
  split at failed
  · cases failed
  · cases failed
    rfl

/-- How the compilation of an element on an empty draft can end.  The three ways differ in the
result or in the error of the draft. -/
inductive Ending (element : Element) : Draft × Outcome Unit → Prop
  /-- It fails, with that failure in the draft and no text. -/
  | failed (error : FilterError) :
      Ending element (⟨"", some error⟩, .error (.failed error))
  /-- It adds a fragment. -/
  | complete (sql : String) (some_text : sql ≠ "") (supported : unsupportedUnit? element = none) :
      Ending element (⟨sql, none⟩, .ok ())
  /-- It adds a fragment whose limit has no unit, or one that is not supported. -/
  | unsupported (sql unit : String) (some_text : sql ≠ "")
      (unsupported : unsupportedUnit? element = some unit) :
      Ending element (⟨sql, some (.unsupportedUnit unit)⟩, .ok ())

/-- On an empty draft, the compilation for a configured layer ends in one of these ways. -/
theorem addOperator_ending {context : Context} {layer : String} {stored : Layer}
    (configured : context.catalog.get? layer = some stored)
    (answers : context.CollaboratorsAnswer layer) (element : Element) :
    Ending element (Draft.empty.addOperator context layer element) := by
  rw [addOperator_eq]
  cases compiled : context.fragment layer element with
  | error interruption =>
    cases interruption with
    | failed error => exact .failed error
    | unconfigured name => exact absurd compiled (fragment_answers answers configured element name)
  | ok fragment =>
    have some_text := fragment_sql_ne_empty compiled
    have noted := fragment_unit compiled
    dsimp only
    rw [Draft.addFragment_eq, noted]
    cases unit : unsupportedUnit? element with
    | none => simpa [Draft.empty] using Ending.complete fragment.sql some_text unit
    | some unit' => simpa [Draft.empty] using Ending.unsupported fragment.sql unit' some_text unit

/-! ## The root of a document -/

/-- The operator that a root element stands for: the element itself, or the only element in it when
it is a `Filter`. -/
inductive StandsFor (root : Element) : Element → Prop
  | bare (named : root.name ≠ "Filter") : StandsFor root root
  | wrapped (operator : Element) (named : root.name = "Filter")
      (only : root.elements = [operator]) : StandsFor root operator

theorem operatorOfRoot_of_standsFor {root operator : Element} (stands : StandsFor root operator) :
    Context.operatorOfRoot root = .ok operator := by
  unfold Context.operatorOfRoot
  cases stands with
  | bare named => rw [if_neg named]
  | wrapped operator named only => rw [if_pos named, only]

theorem operatorOfRoot_of_crowded {root : Element} (named : root.name = "Filter")
    (crowded : root.elements.length ≠ 1) :
    Context.operatorOfRoot root = .error (.structural .notOneOperator) := by
  unfold Context.operatorOfRoot
  rw [if_pos named]
  split
  next operator only => simp [only] at crowded
  · rfl

theorem compileDocument_malformed {context : Context} {layer document : String} {fault : Fault}
    (malformed : Element.parse document = .error fault) :
    context.compileDocument layer document = Outcome.fail (.markup fault) := by
  unfold Context.compileDocument
  rw [malformed]
  rfl

/-- A document is refused for its root before the layer or a collaborator is asked. -/
theorem compileDocument_crowded {context : Context} {layer document : String} {root : Element}
    (parsed : Element.parse document = .ok root) (named : root.name = "Filter")
    (crowded : root.elements.length ≠ 1) :
    context.compileDocument layer document = Outcome.fail (.structural .notOneOperator) := by
  unfold Context.compileDocument
  rw [mapError_eq_ok.mpr parsed]
  simp only [bind, Except.bind, operatorOfRoot_of_crowded named crowded]
  rfl

/-- The draft of the operator decides what a document gives. -/
theorem compileDocument_eq {context : Context} {layer document : String} {stored : Layer}
    {root operator : Element} (configured : context.catalog.get? layer = some stored)
    (answers : context.CollaboratorsAnswer layer) (parsed : Element.parse document = .ok root)
    (stands : StandsFor root operator) :
    context.compileDocument layer document =
      match (Draft.empty.addOperator context layer operator).1 with
      | ⟨sql, none⟩ => .ok sql
      | ⟨_, some error⟩ => Outcome.fail error := by
  have ending := addOperator_ending configured answers operator
  have selected : Outcome.ofExcept (Context.operatorOfRoot root) = .ok operator :=
    mapError_eq_ok.mpr (operatorOfRoot_of_standsFor stands)
  unfold Context.compileDocument
  rw [mapError_eq_ok.mpr parsed]
  simp only [bind, Except.bind, selected]
  generalize Draft.empty.addOperator context layer operator = run at ending ⊢
  cases ending with
  | failed error => rfl
  | complete sql some_text supported => rfl
  | unsupported sql unit some_text unsupported => rfl

/-- For a configured layer and collaborators that answer, an operator on an empty draft ends in one
of three ways, with nothing noted before a failure, and a document gives what that draft says.  A
malformed document gives its fault; a `Filter` with another number of elements than one is refused
whatever the layer and the collaborators are; and a `Filter` around one operator gives the same as
the operator alone. -/
theorem document_gives_operator_draft {context : Context} {layer : String} {stored : Layer}
    (configured : context.catalog.get? layer = some stored)
    (answers : context.CollaboratorsAnswer layer) :
    (∀ element, Ending element (Draft.empty.addOperator context layer element)) ∧
      (∀ element interruption after,
        (context.compileOperator layer element).run.run Draft.empty = (.error interruption, after) →
          after = Draft.empty) ∧
      (∀ document fault, Element.parse document = .error fault →
        context.compileDocument layer document = Outcome.fail (.markup fault)) ∧
      (∀ document root, Element.parse document = .ok root → root.name = "Filter" →
        root.elements.length ≠ 1 → ∀ (other : Context) (name : String),
          other.compileDocument name document = Outcome.fail (.structural .notOneOperator)) ∧
      (∀ document root operator, Element.parse document = .ok root → StandsFor root operator →
        context.compileDocument layer document =
          match (Draft.empty.addOperator context layer operator).1 with
          | ⟨sql, none⟩ => .ok sql
          | ⟨_, some error⟩ => Outcome.fail error) ∧
      ∀ wrapped bare root operator, Element.parse wrapped = .ok root → root.name = "Filter" →
        root.elements = [operator] → Element.parse bare = .ok operator →
        operator.name ≠ "Filter" →
          context.compileDocument layer wrapped = context.compileDocument layer bare := by
  refine ⟨addOperator_ending configured answers, fun _ _ _ => compileOperator_failed,
    fun _ _ => compileDocument_malformed,
    fun _ _ parsed named crowded _ _ => compileDocument_crowded parsed named crowded,
    fun _ _ _ => compileDocument_eq configured answers, ?_⟩
  intro wrapped bare root operator parsed named only parsed_bare named_bare
  rw [compileDocument_eq configured answers parsed (.wrapped operator named only),
    compileDocument_eq configured answers parsed_bare (.bare named_bare)]

/-! ## A limit without a unit -/

/-- Roads beyond a point, by a limit that names no unit. -/
def unitlessDocument : String :=
  "<Beyond><PropertyName>geom</PropertyName><Point/><Distance>3</Distance></Beyond>"

/-- The same in a filter. -/
def unitlessFilter : String :=
  "<f:Filter>" ++ unitlessDocument ++ "</f:Filter>"

/-- The element of that document. -/
def unitlessElement : Element :=
  ⟨"Beyond", [], [.element "PropertyName" [] [.text "geom"], .element "Point" [] [],
    .element "Distance" [] [.text "3"]]⟩

/-- A limit without a unit is reported as one whose unit is not supported, in a filter or on its
own. -/
theorem missing_unit_is_reported :
    roadContext.compileDocument "roads" unitlessFilter =
        Outcome.fail (.unsupportedUnit "") ∧
      roadContext.compileDocument "roads" unitlessFilter =
        roadContext.compileDocument "roads" unitlessDocument := by
  obtain ⟨-, -, -, -, given, transparent⟩ :=
    @document_gives_operator_draft roadContext "roads" roadLayer rfl roadContext_answers
  have bare : Element.parse unitlessDocument = .ok unitlessElement :=
    eq_ok_of_toOption (by decide +kernel)
  have wrapped : Element.parse unitlessFilter = .ok ⟨"Filter", [], [unitlessElement.toNode]⟩ :=
    eq_ok_of_toOption (by decide +kernel)
  have noted : (Draft.empty.addOperator roadContext "roads" unitlessElement).1 =
      ⟨"ST_Distance(ST_centroid(\"geom\"),ST_centroid('SRID=4326;POINT()')) > 3",
        some (.unsupportedUnit "")⟩ := by
    decide +kernel
  constructor
  · rw [given _ _ _ wrapped (.wrapped unitlessElement rfl rfl), noted]
  · exact transparent _ _ _ _ wrapped rfl rfl bare (by decide)

end SpatialFilter
