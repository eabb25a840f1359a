import SpatialFilter.Filter.Collaborator
import SpatialFilter.Proofs.DraftRuns
import SpatialFilter.Proofs.GeometryFrame
import SpatialFilter.Proofs.QuotedTexts

/-!
# Containment of translated geometries

What a translated text can do to the tokens of the SQL around it is a matter of its quotes alone:
it stays in its literal exactly when the quotes behind its backslashes come in pairs.
-/

namespace SpatialFilter

open SpatialFilter.Markup
open SpatialFilter.Sql

/-! ## Token lists with one literal that differs -/

/-- The same tokens, but for the value of one literal. -/
def SameUpToOneLiteral (one other : List Token) : Prop :=
  ∃ before value value' after,
    one = before ++ .literal value :: after ∧ other = before ++ .literal value' :: after

/-- A literal with symbols behind it is the only one that can differ: a list which agrees with the
tokens in front of it has a literal in its place, and the same symbols behind it. -/
theorem sameUpToOneLiteral_iff {before after rest : List Token} {value : List Char}
    (symbols : ∀ token ∈ after, token.isSymbol = true) :
    SameUpToOneLiteral (before ++ .literal value :: after) (before ++ rest) ↔
      ∃ value', rest = .literal value' :: after := by
  constructor
  · rintro ⟨front, one, two, back, left, right⟩
    rcases List.append_eq_append_iff.mp left with ⟨gap, front_eq, left⟩ | ⟨gap, before_eq, left⟩
    · -- The differing literal stands at the same place or behind it.
      cases gap with
      | nil =>
        rw [List.nil_append, List.cons.injEq] at left
        rw [front_eq, List.append_nil, List.append_cancel_left_eq] at right
        exact ⟨two, by rw [right, left.2]⟩
      | cons token gap =>
        rw [List.cons_append, List.cons.injEq] at left
        have noSymbol := symbols (.literal one) (by rw [left.2]; simp)
        cases noSymbol
    · -- It stands at the same place or in front of it.
      cases gap with
      | nil =>
        rw [List.nil_append, List.cons.injEq] at left
        rw [before_eq, List.append_nil, List.append_cancel_left_eq] at right
        exact ⟨two, by rw [right, left.2]⟩
      | cons token gap =>
        rw [List.cons_append, List.cons.injEq] at left
        rw [before_eq, List.append_assoc, List.append_cancel_left_eq, List.cons_append,
          List.cons.injEq, left.2, List.append_cancel_left_eq] at right
        exact ⟨value, right.2⟩
  · rintro ⟨value', rfl⟩
    exact ⟨before, value, value', after, rfl, rfl⟩

theorem isSymbol_of_mem_symbols {text : List Char} {token : Token}
    (member : token ∈ text.map Token.symbol) : token.isSymbol = true := by
  obtain ⟨c, -, rfl⟩ := List.mem_map.mp member
  rfl

/-- Beside a text that stays in its literal, another one changes no more than the value of that
literal exactly when it stays in it as well. -/
theorem tokens_sameUpToOneLiteral_iff {before after text text' : String}
    (plain : (scan .plain before.toList).1 = .plain) (free : QuoteFree after.toList)
    (paired : SlashedQuotesPaired '\x27' text.toList) :
    SameUpToOneLiteral (tokens (before ++ textLiteral text ++ after))
        (tokens (before ++ textLiteral text' ++ after)) ↔
      SlashedQuotesPaired '\x27' text'.toList := by
  obtain ⟨value, one⟩ := (tokens_around_textLiteral plain free text).mpr paired
  have front : tokens (before ++ textLiteral text' ++ after) =
      (scan .plain before.toList).2 ++ lex .plain (textLiteral text' ++ after).toList := by
    rw [tokens, String.append_assoc, String.toList_append, lex_append, plain]
  rw [← tokens_around_textLiteral plain free text', one, front,
    sameUpToOneLiteral_iff fun _ member => isSymbol_of_mem_symbols member]
  simp only [List.append_cancel_left_eq]

/-! ## What an operator adds -/

/-- For two texts an operator either fails alike, or it adds the same fragment, or it fills the
same frame. -/
theorem fragment_reading_pair {context : Context} {layer : String} {element operand : Element}
    {reader other : GeometryReader} {text text' : String}
    (second : element.elements[1]? = some operand)
    (answer : reader operand = .ok text) (answer' : other operand = .ok text') :
    (∃ interruption, (context.reading reader).fragment layer element = .error interruption ∧
        (context.reading other).fragment layer element = .error interruption) ∨
      (translates element operand = false ∧ ∃ fragment,
        (context.reading reader).fragment layer element = .ok fragment ∧
          (context.reading other).fragment layer element = .ok fragment) ∨
      (translates element operand = true ∧ ∃ frame, context.frame layer element = .ok frame ∧
        (context.reading reader).fragment layer element = .ok (frame.fill (textLiteral text)) ∧
          (context.reading other).fragment layer element =
            .ok (frame.fill (textLiteral text'))) := by
  cases handed : translates element operand with
  | false =>
    rw [fragment_reading_unasked second handed reader, fragment_reading_unasked second handed other]
    cases context.fragment layer element with
    | error interruption => exact Or.inl ⟨interruption, rfl, rfl⟩
    | ok fragment => exact Or.inr (Or.inl ⟨rfl, fragment, rfl, rfl⟩)
  | true =>
    rw [fragment_reading second handed answer, fragment_reading second handed answer']
    cases context.frame layer element with
    | error interruption => exact Or.inl ⟨interruption, rfl, rfl⟩
    | ok frame => exact Or.inr (Or.inr ⟨rfl, frame, rfl, rfl, rfl⟩)

/-- An operator is compiled with two texts for its second operand.  Both compilations end alike
and note the same errors, and when they succeed each adds its SQL to the draft.  An operator that
does not translate the operand adds the same SQL.  One that does adds, beside a text that stays in
its literal, the same tokens up to the value of that literal exactly when the quotes behind the
backslashes of the other text come in pairs too. -/
theorem translated_texts_differ_in_one_literal_iff {context : Context} {layer : String}
    {element operand : Element} {reader other : GeometryReader} {text text' : String}
    (second : element.elements[1]? = some operand)
    (closed : ∀ operator column,
      context.operandColumn layer operator element.elements[0]? = .ok column → EndsOutside column)
    (answer : reader operand = .ok text) (answer' : other operand = .ok text')
    (draft : Draft) :
    let one := draft.addOperator (context.reading reader) layer element
    let two := draft.addOperator (context.reading other) layer element
    one.2 = two.2 ∧ one.1.error = two.1.error ∧
      (one.2 = .ok () → ∃ sql sql', one.1.sql = draft.sql ++ sql ∧ two.1.sql = draft.sql ++ sql' ∧
        (translates element operand = false → sql = sql') ∧
        (translates element operand = true → SlashedQuotesPaired '\x27' text.toList →
          (SameUpToOneLiteral (tokens sql) (tokens sql') ↔
            SlashedQuotesPaired '\x27' text'.toList))) := by
  intro one two
  have one_eq : one = draft.addOperator (context.reading reader) layer element := rfl
  have two_eq : two = draft.addOperator (context.reading other) layer element := rfl
  rw [addOperator_eq] at one_eq two_eq
  have pair := @fragment_reading_pair context layer element operand reader other text text' second
    answer answer'
  rcases pair with
    ⟨interruption, left, right⟩ | ⟨kept, fragment, left, right⟩ |
      ⟨handed, frame, framed, left, right⟩
  · rw [left] at one_eq
    rw [right] at two_eq
    have same : one = two := by rw [one_eq, two_eq]
    refine ⟨by rw [same], by rw [same], fun succeeded => ?_⟩
    rw [one_eq] at succeeded
    cases interruption <;> cases succeeded
  · simp only [left] at one_eq
    simp only [right] at two_eq
    rw [one_eq, two_eq]
    refine ⟨rfl, rfl, fun _ => ⟨fragment.sql, fragment.sql, ?_, ?_, fun _ => rfl, ?_⟩⟩
    · rw [Draft.addFragment_eq]
    · rw [Draft.addFragment_eq]
    · intro handed
      rw [kept] at handed
      cases handed
  · simp only [left] at one_eq
    simp only [right] at two_eq
    rw [one_eq, two_eq, Draft.addFragment_eq, Draft.addFragment_eq]
    refine ⟨rfl, rfl, fun _ => ⟨_, _, rfl, rfl, ?_, ?_⟩⟩
    · intro kept
      rw [handed] at kept
      cases kept
    · intro _ paired
      obtain ⟨plain, free⟩ := frame_open framed closed
      exact tokens_sameUpToOneLiteral_iff plain free paired

/-! ## A layer of cities -/

/-- A service with one layer, whose properties are its columns. -/
def cityContext : Context :=
  Context.ofCatalog ⟨[⟨"cities", "public", 4326, .degrees, ["geom"]⟩], by decide⟩ ColumnMap.quoted
    GeometryReader.point

/-- The cities in a geometry. -/
def withinElement : Element :=
  ⟨"Within", [], [.element "PropertyName" [] [.text "geom"], .element "Any" [] []]⟩

/-- The SQL of the element with a text for its geometry. -/
def withinSql (text : String) : String :=
  (Draft.empty.addOperator (cityContext.reading fun _ => .ok text) "cities" withinElement).1.sql

theorem withinElement_closed (operator : SpatialOperator) (column : String)
    (named : cityContext.operandColumn "cities" operator withinElement.elements[0]? = .ok column) :
    EndsOutside column := by
  have geom : cityContext.operandColumn "cities" operator withinElement.elements[0]? =
      .ok "\"geom\"" := by
    rfl
  rw [geom] at named
  cases named
  decide

/-- A quote without a backslash in front of it stays in the literal, and so does what follows it. -/
theorem quotes_differ_in_one_literal :
    SameUpToOneLiteral (tokens (withinSql "POINT(1 2)"))
      (tokens (withinSql "\x27) OR 1=1; DROP TABLE cities --")) := by
  have both := @translated_texts_differ_in_one_literal_iff cityContext "cities" withinElement
    ⟨"Any", [], []⟩ (fun _ => .ok "POINT(1 2)")
    (fun _ => .ok "\x27) OR 1=1; DROP TABLE cities --") _ _ rfl withinElement_closed rfl rfl
    Draft.empty
  obtain ⟨-, -, added⟩ := both
  obtain ⟨sql, sql', one_eq, two_eq, -, same⟩ := added rfl
  have one_sql : withinSql "POINT(1 2)" = sql := one_eq.trans String.empty_append
  have other_sql : withinSql "\x27) OR 1=1; DROP TABLE cities --" = sql' :=
    two_eq.trans String.empty_append
  rw [one_sql, other_sql]
  exact (same rfl (by decide)).mpr (by decide)

theorem withinSql_eq (text : String) :
    withinSql text = "ST_Within(\"geom\"," ++ textLiteral text ++ ")" := by
  have framed : cityContext.frame "cities" withinElement =
      .ok ⟨"ST_Within" ++ "(" ++ "\"geom\"" ++ ",", ")", none⟩ := by
    rfl
  have compiled := @fragment_reading cityContext "cities" withinElement ⟨"Any", [], []⟩
    (fun _ => .ok text) text rfl rfl rfl
  rw [framed] at compiled
  unfold withinSql
  rw [addOperator_eq, compiled]
  simp [Except.map, Frame.fill, Draft.addFragment_eq, Draft.empty]

/-- A quote behind a backslash ends the literal, and what follows it is SQL. -/
theorem slashed_quote_ends_literal :
    withinSql "\\\x27) OR 1=1 --" = "ST_Within(\"geom\",\x27\\\x27) OR 1=1 --\x27)" ∧
      ¬ SameUpToOneLiteral (tokens (withinSql "POINT(1 2)"))
        (tokens (withinSql "\\\x27) OR 1=1 --")) := by
  constructor
  · rw [withinSql_eq]
    simp [textLiteral, quoted, escapeQuotes]
  · rw [withinSql_eq, withinSql_eq,
      tokens_sameUpToOneLiteral_iff (by decide) (by decide) (by decide)]
    decide

end SpatialFilter
