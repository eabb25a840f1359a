import SpatialFilter.Proofs.ConfiguredLayers
import SpatialFilter.Proofs.DraftRuns

/-!
# Columns and envelopes in one reference

An operator that compares a column with an envelope needs both in the same reference.  The
envelope takes its srid from `literalSrid` and the column from `conversionSrid`, which look at the
request and at the layer independently of each other.  Here both are traced to one srid
(`Context.comparedSrid`): the envelope carries it (`envelopeLiteral_eq_ok`), and the column is
converted to it exactly when it is stored in another (`convertedColumn_eq_ok`).
-/

namespace SpatialFilter

open SpatialFilter.Number
open SpatialFilter.Markup

/-- A column as it stands in a comparison. -/
inductive ColumnUse where
  | stored (column : String)
  | converted (column : String) (srid : Int32)
  deriving DecidableEq, Repr

namespace ColumnUse

def column : ColumnUse → String
  | .stored column => column
  | .converted column _ => column

def sql : ColumnUse → String
  | .stored column => column
  | .converted column srid => "st_transform(" ++ column ++ "," ++ int32Text srid ++ ")"

/-- The srid that the values of the column are in there, given the layer it belongs to. -/
def srid (layer : Layer) : ColumnUse → Int32
  | .stored _ => layer.srid
  | .converted _ srid => srid

end ColumnUse

/-- The two corners of an envelope as the text of a box. -/
def Envelope.text (envelope : Envelope) : String :=
  "BOX(" ++ envelope.lower.x.text ++ " " ++ envelope.lower.y.text ++ "," ++
    envelope.upper.x.text ++ " " ++ envelope.upper.y.text ++ ")"

/-- An envelope with its srid as a literal. -/
def Envelope.sql (envelope : Envelope) (srid : Int32) : String :=
  "setsrid('" ++ envelope.text ++ "'::box2d," ++ int32Text srid ++ ")"

/-- The SQL function by which an operator compares a column with an envelope.  Distances are not
taken to envelopes as such. -/
def SpatialOperator.envelopeFunction? (operator : SpatialOperator) : Option String :=
  match operator.family with
  | .topological predicate => some predicate
  | .box => some "st_intersects"
  | .distance _ => none

/-- The srid that a request compares a layer in: that of the reference it asks for, and otherwise
the one that the layer is stored in. -/
def Context.comparedSrid (context : Context) (layer : Layer) : Int32 :=
  match context.requested with
  | some reference => reference.srid
  | none => layer.srid

/-- Asking for the unset reference is asking for none. -/
theorem comparedSrid_withRequested (context : Context) (reference : SpatialReference)
    (layer : Layer) :
    (context.withRequested reference).comparedSrid layer =
      if reference.isUnset then layer.srid else reference.srid := by
  unfold Context.comparedSrid Context.withRequested
  by_cases unset : reference.isUnset
  · simp [unset]
  · simp [unset]

section Configured

variable {context : Context} {name : String} {layer : Layer}

/-- Literals are written in the srid that is compared in. -/
theorem literalSrid_of_configured (configured : context.catalog.get? name = some layer) :
    context.literalSrid name = .ok (context.comparedSrid layer) := by
  unfold Context.literalSrid Context.comparedSrid
  cases context.requested with
  | none => exact srid_of_configured configured
  | some reference => rfl

/-- A column is converted to the srid that is compared in, unless it is stored in that one. -/
theorem conversionSrid_of_configured (configured : context.catalog.get? name = some layer) :
    context.conversionSrid name =
      .ok (if context.comparedSrid layer = layer.srid then none
        else some (context.comparedSrid layer)) := by
  unfold Context.conversionSrid Context.comparedSrid
  cases context.requested with
  | none => simp
  | some reference =>
    simp only [srid_of_configured configured]
    rfl

/-- What a converted column is made of. -/
theorem convertedColumn_eq_ok {operator : SpatialOperator} {operand : Option Element}
    {sql : String} (configured : context.catalog.get? name = some layer)
    (converted : context.convertedColumn name operator operand = .ok sql) :
    ∃ use : ColumnUse, context.operandColumn name operator operand = .ok use.column ∧
      use.sql = sql ∧ use.srid layer = context.comparedSrid layer ∧
      (use = .stored use.column ↔ context.comparedSrid layer = layer.srid) := by
  obtain ⟨column, named, converted⟩ := bind_eq_ok.mp converted
  rw [conversionSrid_of_configured configured] at converted
  by_cases same : context.comparedSrid layer = layer.srid
  · rw [if_pos same] at converted
    cases converted
    exact ⟨.stored sql, named, rfl, same.symm, by simp [ColumnUse.column, same]⟩
  · rw [if_neg same] at converted
    cases converted
    refine ⟨.converted column (context.comparedSrid layer), named, rfl, rfl, ?_⟩
    simp [same]

/-- A box that can be written is written in the plain texts of its numbers. -/
theorem boxLiteral_eq_ok {envelope : Envelope} {srid : Int32} {sql : String}
    (written : rendered (Sql.boxLiteral envelope.lower.x envelope.lower.y envelope.upper.x
      envelope.upper.y srid) = .ok sql) : sql = envelope.sql srid := by
  unfold rendered at written
  rw [mapError_eq_ok] at written
  unfold Sql.boxLiteral Sql.cornersText at written
  obtain ⟨box, corners, written⟩ := bind_eq_ok.mp written
  obtain ⟨x₀, x₀_text, corners⟩ := bind_eq_ok.mp corners
  obtain ⟨y₀, y₀_text, corners⟩ := bind_eq_ok.mp corners
  obtain ⟨x₁, x₁_text, corners⟩ := bind_eq_ok.mp corners
  obtain ⟨y₁, y₁_text, corners⟩ := bind_eq_ok.mp corners
  simp only [pure, Except.pure, Except.ok.injEq] at corners written
  have box_text : box = envelope.text := by
    obtain ⟨-, rfl⟩ := number_eq_ok_iff.mp x₀_text
    obtain ⟨-, rfl⟩ := number_eq_ok_iff.mp y₀_text
    obtain ⟨-, rfl⟩ := number_eq_ok_iff.mp x₁_text
    obtain ⟨-, rfl⟩ := number_eq_ok_iff.mp y₁_text
    rw [← corners]
    rfl
  rw [← written, box_text, Envelope.sql]

/-- What an envelope literal is made of. -/
theorem envelopeLiteral_eq_ok {element : Element} {sql : String}
    (configured : context.catalog.get? name = some layer)
    (compiled : context.envelopeLiteral name element = .ok sql) :
    ∃ envelope, Envelope.ofElement element = .ok envelope ∧
      sql = envelope.sql (context.comparedSrid layer) := by
  unfold Context.envelopeLiteral at compiled
  rw [literalSrid_of_configured configured] at compiled
  have complete : ∀ {srid : Int32}, (do
      let envelope ← Outcome.ofExcept (Envelope.ofElement element)
      rendered (Sql.boxLiteral envelope.lower.x envelope.lower.y envelope.upper.x envelope.upper.y
        srid)) = .ok sql →
      ∃ envelope, Envelope.ofElement element = .ok envelope ∧ sql = envelope.sql srid := by
    intro srid rest
    obtain ⟨envelope, read, written⟩ := bind_eq_ok.mp rest
    exact ⟨envelope, ofExcept_eq_ok.mp read, boxLiteral_eq_ok written⟩
  -- The name of a reference can only stop the compilation.
  cases mentioned : element.attribute? "srsName" with
  | none =>
    simp only [mentioned] at compiled
    exact complete compiled
  | some reference =>
    simp only [mentioned, bind, Except.bind] at compiled
    split at compiled
    · cases compiled
    · exact complete compiled

end Configured

theorem Operand.ofElement_of_writesEnvelope {element : Element}
    (writes : writesEnvelope element = true) : Operand.ofElement element = .envelope element := by
  have named : element.name = "Box" ∨ element.name = "Envelope" := by
    simpa [writesEnvelope] using writes
  unfold Operand.ofElement
  rw [if_neg, if_pos writes]
  rcases named with box | envelope
  · simp [box]
  · simp [envelope]

/-- What a comparison of a column with an envelope is made of. -/
theorem fragment_envelope {context : Context} {name function : String}
    {operator : SpatialOperator} {element operand : Element} {fragment : Fragment}
    (named : SpatialOperator.ofName? element.name = some operator)
    (function_eq : operator.envelopeFunction? = some function)
    (second : element.elements[1]? = some operand) (writes : writesEnvelope operand = true)
    (complete : context.fragment name element = .ok fragment) :
    ∃ column envelope,
      context.convertedColumn name operator element.elements[0]? = .ok column ∧
        context.envelopeLiteral name operand = .ok envelope ∧
        fragment = ⟨function ++ "(" ++ column ++ "," ++ envelope ++ ")", none⟩ := by
  have kind := Operand.ofElement_of_writesEnvelope writes
  unfold SpatialOperator.envelopeFunction? at function_eq
  cases Context.fragment_eq_ok_iff.mp complete with
  | topological other predicate sql named' family compiled =>
    rw [named, Option.some.injEq] at named'
    subst named'
    simp only [family, Option.some.injEq] at function_eq
    subst function_eq
    obtain ⟨column, envelope, converted, literal, rfl⟩ := topologicalSql_eq_ok_iff.mp compiled
    simp only [Context.comparedOperand, second, Option.map_some, kind] at literal
    exact ⟨column, envelope, converted, literal, rfl⟩
  | box other sql named' family compiled =>
    rw [named, Option.some.injEq] at named'
    subst named'
    simp only [family, Option.some.injEq] at function_eq
    subst function_eq
    have only : operator = .box := by
      cases operator <;> simp [SpatialOperator.family] at family ⊢
    subst only
    obtain ⟨column, envelope, converted, literal, rfl⟩ := boxSql_eq_ok_iff.mp compiled
    simp only [Context.boxOperand, second, Option.map_some, kind] at literal
    exact ⟨column, envelope, converted, literal, rfl⟩
  | distance other comparator comparison _ named' family compared written =>
    rw [named, Option.some.injEq] at named'
    subst named'
    simp [family] at function_eq

/-- When an operator compares a column with an envelope, the SQL that it adds to a draft names one
srid for both.  The envelope carries it, and the column is converted to it unless it is stored in
it.  It is the srid of the reference that the request asks for, or else the layer's; a request for
the unset reference asks for none. -/
theorem column_and_envelope_share_srid {context : Context} {name function : String}
    {layer : Layer} {operator : SpatialOperator} {element operand : Element}
    {draft after : Draft}
    (configured : context.catalog.get? name = some layer)
    (named : SpatialOperator.ofName? element.name = some operator)
    (function_eq : operator.envelopeFunction? = some function)
    (second : element.elements[1]? = some operand) (writes : writesEnvelope operand = true)
    (succeeded : draft.addOperator context name element = (after, .ok ())) :
    (∃ (use : ColumnUse) (envelope : Envelope),
      context.operandColumn name operator element.elements[0]? = .ok use.column ∧
        Envelope.ofElement operand = .ok envelope ∧
        after = draft.append (function ++ "(" ++ use.sql ++ "," ++
          envelope.sql (context.comparedSrid layer) ++ ")") ∧
        use.srid layer = context.comparedSrid layer ∧
        (use = .stored use.column ↔ context.comparedSrid layer = layer.srid)) ∧
      ∀ reference, (context.withRequested reference).comparedSrid layer =
        if reference.isUnset then layer.srid else reference.srid := by
  refine ⟨?_, fun reference => comparedSrid_withRequested context reference layer⟩
  rw [addOperator_eq] at succeeded
  cases compiled : context.fragment name element with
  | error interruption => cases interruption <;> simp [compiled] at succeeded
  | ok fragment =>
    obtain ⟨sql, literal, converted, enveloped, rfl⟩ :=
      fragment_envelope named function_eq second writes compiled
    obtain ⟨use, resolved, rfl, shared, kept⟩ := convertedColumn_eq_ok configured converted
    obtain ⟨envelope, read, rfl⟩ := envelopeLiteral_eq_ok configured enveloped
    simp only [compiled, Prod.mk.injEq, and_true] at succeeded
    exact ⟨use, envelope, resolved, read, succeeded.symm, shared, kept⟩

/-! ## Roads in another reference than theirs -/

/-- An envelope of whole degrees. -/
def degreeEnvelope : Element :=
  ⟨"Envelope", [], [.element "lowerCorner" [] [.text "1 2"],
    .element "upperCorner" [] [.text "3 4"]]⟩

/-- The roads in that envelope. -/
def roadElement : Element :=
  ⟨"BBOX", [], [.element "PropertyName" [] [.text "geom"], degreeEnvelope.toNode]⟩

/-- The roads are converted to the degrees of the envelope, since they are stored in metres. -/
theorem roads_are_compared_in_degrees :
    (Draft.empty.addOperator roadContext "roads" roadElement).1.sql =
        "st_intersects(st_transform(\"geom\",4326),setsrid('BOX(1 2,3 4)'::box2d,4326))" ∧
      ∃ (use : ColumnUse) (envelope : Envelope),
        (Draft.empty.addOperator roadContext "roads" roadElement).1 =
          Draft.empty.append ("st_intersects(" ++ use.sql ++ "," ++
            envelope.sql geographicSrid ++ ")") ∧
          use.srid roadLayer = geographicSrid ∧ use ≠ .stored use.column := by
  have ended : (Draft.empty.addOperator roadContext "roads" roadElement).2 = .ok () :=
    eq_ok_of_toOption (by decide +kernel)
  have succeeded : Draft.empty.addOperator roadContext "roads" roadElement =
      ((Draft.empty.addOperator roadContext "roads" roadElement).1, .ok ()) := by
    rw [← ended]
  obtain ⟨⟨use, envelope, -, -, added, shared, kept⟩, -⟩ :=
    @column_and_envelope_share_srid roadContext "roads" "st_intersects" roadLayer .box roadElement
      degreeEnvelope Draft.empty _ rfl rfl rfl rfl rfl succeeded
  refine ⟨by decide +kernel, use, envelope, added, shared, ?_⟩
  intro stored
  exact absurd (kept.mp stored) (by decide)

end SpatialFilter
