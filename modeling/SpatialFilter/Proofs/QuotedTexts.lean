import SpatialFilter.Proofs.SqlTokens
import SpatialFilter.Sql.Quoting

/-!
# Quoted texts as tokens

A quote in a text is doubled when the text is put between quotes, except behind a backslash,
where quotes are copied.  The database does not know that exception: for it a backslash is an
ordinary character.  So a quoted text is one token exactly when the quotes that follow a backslash
come in pairs (`lex_escapeQuotes`).
-/

namespace SpatialFilter.Sql

/-- What the next character of a text follows: no backslash, or a backslash and an even or odd
number of quotes. -/
inductive Lead where
  | none
  | even
  | odd
  deriving DecidableEq, Repr

namespace Lead

/-- What a character other than a copied quote leads to. -/
def ofChar (c : Char) : Lead :=
  if c = '\\' then .even else .none

/-- Quotes that follow are copied. -/
def isEscaped : Lead → Bool
  | .none => false
  | _ => true

/-- Where the scan of a quoted text stands: an odd quote has yet to meet its partner. -/
def mode (lead : Lead) (quote : Quote) (content : List Char) : Mode :=
  match lead with
  | .odd => .behind quote content
  | _ => .inside quote content

end Lead

/-- The quotes behind backslashes come in pairs, in a text that follows `lead`. -/
def pairsQuotes (quote : Char) : Lead → List Char → Bool
  | .odd, [] => false
  | _, [] => true
  | .odd, c :: rest => c == quote && pairsQuotes quote .even rest
  | .even, c :: rest =>
    if c = quote then pairsQuotes quote .odd rest else pairsQuotes quote (.ofChar c) rest
  | .none, c :: rest => pairsQuotes quote (.ofChar c) rest

/-- The number of quotes that a text begins with. -/
def leadingQuotes (quote : Char) (text : List Char) : Nat :=
  (text.takeWhile fun c => c == quote).length

/-- Behind every backslash stands an even number of quotes. -/
def SlashedQuotesPaired (quote : Char) (text : List Char) : Prop :=
  ∀ before rest, text = before ++ '\\' :: rest → leadingQuotes quote rest % 2 = 0

/-! ## The scan for pairs -/

/-- The rule is checked character by character, at each backslash for the quotes right behind it. -/
theorem slashedQuotesPaired_cons {quote c : Char} {text : List Char} :
    SlashedQuotesPaired quote (c :: text) ↔
      (c = '\\' → leadingQuotes quote text % 2 = 0) ∧ SlashedQuotesPaired quote text := by
  constructor
  · intro paired
    refine ⟨fun slash => paired [] text (by rw [slash]; rfl), ?_⟩
    intro before rest split
    exact paired (c :: before) rest (by rw [split]; rfl)
  · rintro ⟨first, paired⟩ before rest split
    cases before with
    | nil =>
      rw [List.nil_append, List.cons.injEq] at split
      rw [← split.2]
      exact first split.1
    | cons head tail =>
      rw [List.cons_append, List.cons.injEq] at split
      exact paired tail rest split.2

theorem leadingQuotes_cons_self {quote : Char} {text : List Char} :
    leadingQuotes quote (quote :: text) = leadingQuotes quote text + 1 := by
  simp [leadingQuotes]

theorem leadingQuotes_cons_other {quote c : Char} {text : List Char} (other : c ≠ quote) :
    leadingQuotes quote (c :: text) = 0 := by
  simp [leadingQuotes, other]

/-- What a lead asks of the quotes that follow it at once. -/
def Lead.Admits (count : Nat) : Lead → Prop
  | .none => True
  | .even => count % 2 = 0
  | .odd => count % 2 = 1

theorem Lead.ofChar_admits {c : Char} {count : Nat} :
    (Lead.ofChar c).Admits count ↔ (c = '\\' → count % 2 = 0) := by
  unfold Lead.ofChar
  by_cases slash : c = '\\' <;> simp [slash, Lead.Admits]

/-- Pairing quotes while scanning is the same as counting them behind each backslash. -/
theorem pairsQuotes_iff {quote : Char} (plain : quote ≠ '\\') (lead : Lead) (text : List Char) :
    pairsQuotes quote lead text = true ↔
      lead.Admits (leadingQuotes quote text) ∧ SlashedQuotesPaired quote text := by
  induction text generalizing lead with
  | nil =>
    cases lead <;> simp [pairsQuotes, Lead.Admits, leadingQuotes, SlashedQuotesPaired]
  | cons c rest ih =>
    rw [slashedQuotesPaired_cons]
    cases lead with
    | none =>
      rw [pairsQuotes, ih, Lead.ofChar_admits]
      simp [Lead.Admits]
    | even =>
      by_cases same : c = quote
      · subst same
        have shifted : (leadingQuotes c rest + 1) % 2 = 0 ↔ leadingQuotes c rest % 2 = 1 := by
          omega
        simp [pairsQuotes, ih, Lead.Admits, leadingQuotes_cons_self, plain, shifted]
      · rw [pairsQuotes, if_neg same, ih, Lead.ofChar_admits]
        simp [Lead.Admits, leadingQuotes_cons_other same]
    | odd =>
      by_cases same : c = quote
      · subst same
        have shifted : (leadingQuotes c rest + 1) % 2 = 1 ↔ leadingQuotes c rest % 2 = 0 := by
          omega
        simp [pairsQuotes, ih, Lead.Admits, leadingQuotes_cons_self, plain, shifted]
      · simp [pairsQuotes, same, Lead.Admits, leadingQuotes_cons_other same]

theorem Quote.char_ne_slash (quote : Quote) : quote.char ≠ '\\' := by
  cases quote <;> decide

instance (text : List Char) : Decidable (SlashedQuotesPaired '\x27' text) :=
  decidable_of_iff (pairsQuotes '\x27' .none text = true) <| by
    rw [pairsQuotes_iff (by decide)]
    simp [Lead.Admits]

/-! ## The tokens of a quoted text -/

/-- Any character but a quote is copied. -/
theorem escapeQuotes_other {quote c : Char} (other : c ≠ quote) (escaped : Bool)
    (rest : List Char) :
    escapeQuotes quote escaped (c :: rest) = c :: escapeQuotes quote (c == '\\') rest := by
  have unlike : (c == quote) = false := by simpa using other
  cases escaped with
  | true => simp [escapeQuotes, unlike]
  | false => rw [escapeQuotes.eq_def]; simp [other]

theorem Lead.mode_ofChar (c : Char) (quote : Quote) (content : List Char) :
    (Lead.ofChar c).mode quote content = .inside quote content := by
  unfold Lead.ofChar
  split <;> rfl

theorem Lead.isEscaped_ofChar (c : Char) : (Lead.ofChar c).isEscaped = (c == '\\') := by
  unfold Lead.ofChar
  by_cases slash : c = '\\' <;> simp [slash, Lead.isEscaped]

/-- A token that is closed early leaves a quote for the tokens after it. -/
theorem lex_behind_other {quote : Quote} {content : List Char} {c : Char}
    (other : c ≠ quote.char) {rest post : List Char} (closing : quote.char ∈ rest)
    (value : List Char) :
    lex (.behind quote content) (c :: rest) ≠ .quoted quote value :: post.map .symbol := by
  intro same
  have split : lex (.behind quote content) (c :: rest) =
      .quoted quote content :: lex .plain (c :: rest) := by
    simp [lex_cons, Mode.next, other]
  rw [split, List.cons.injEq] at same
  obtain ⟨token, member, noSymbol⟩ :=
    exists_not_symbol .plain (c :: rest) (Or.inr ⟨quote, List.mem_cons_of_mem c closing⟩)
  rw [same.2, List.mem_map] at member
  obtain ⟨d, -, rfl⟩ := member
  cases noSymbol

/-- The text, with the closing quote behind it, gives one token and the symbols after it exactly
when its quotes are paired. -/
def IsOneToken (quote : Quote) (post : List Char) (lead : Lead) (content text : List Char) : Prop :=
  (∃ value, lex (lead.mode quote content)
      (escapeQuotes quote.char lead.isEscaped text ++ quote.char :: post) =
    .quoted quote value :: post.map .symbol) ↔ pairsQuotes quote.char lead text = true

theorem isOneToken_nil (quote : Quote) {post : List Char} (free : QuoteFree post) (lead : Lead)
    (content : List Char) : IsOneToken quote post lead content [] := by
  unfold IsOneToken
  cases lead with
  | none =>
    simp [escapeQuotes, pairsQuotes, Lead.mode, lex_cons, Mode.next,
      lex_behind_of_quoteFree quote _ free]
  | even =>
    simp [escapeQuotes, pairsQuotes, Lead.mode, lex_cons, Mode.next,
      lex_behind_of_quoteFree quote _ free]
  | odd =>
    simp [escapeQuotes, pairsQuotes, Lead.mode, lex_cons, Mode.next,
      lex_inside_of_quoteFree quote _ free]

/-- Any character but a quote stays in the token, where no odd quote stands in front of it. -/
theorem isOneToken_other {quote : Quote} {post : List Char} {lead : Lead} (even : lead ≠ .odd)
    {content : List Char} {c : Char} (other : c ≠ quote.char) {rest : List Char}
    (later : IsOneToken quote post (.ofChar c) (content ++ [c]) rest) :
    IsOneToken quote post lead content (c :: rest) := by
  unfold IsOneToken at later ⊢
  rw [Lead.mode_ofChar, Lead.isEscaped_ofChar] at later
  rw [escapeQuotes_other other]
  cases lead with
  | none => simpa [Lead.mode, other, lex_cons, Mode.next, pairsQuotes] using later
  | even => simpa [Lead.mode, other, lex_cons, Mode.next, pairsQuotes] using later
  | odd => exact absurd rfl even

/-- A quote that is doubled stands for itself, whether or not it was doubled before. -/
theorem isOneToken_doubled {quote : Quote} {post content rest : List Char}
    (later : ∀ others, others.length ≤ rest.length →
      IsOneToken quote post .none (content ++ [quote.char]) others) :
    IsOneToken quote post .none content (quote.char :: rest) := by
  have doubled (others : List Char) :
      lex (.inside quote content) (quote.char :: quote.char :: others) =
        lex (.inside quote (content ++ [quote.char])) others := by
    simp [lex_cons, Mode.next]
  have unslashed : Lead.ofChar quote.char = .none := if_neg quote.char_ne_slash
  cases rest with
  | nil =>
    have empty := later [] (Nat.le_refl _)
    simp only [IsOneToken, escapeQuotes, Lead.isEscaped, Lead.mode, if_true, List.cons_append,
      doubled, pairsQuotes, unslashed] at empty ⊢
    exact empty
  | cons next others =>
    by_cases again : next = quote.char
    · -- A quote that follows is dropped, since it is written already.
      subst again
      have shorter := later others (Nat.le_succ _)
      simp only [IsOneToken, escapeQuotes, Lead.isEscaped, Lead.mode, if_true, List.cons_append,
        doubled, pairsQuotes, unslashed] at shorter ⊢
      exact shorter
    · have whole := later (next :: others) (Nat.le_refl _)
      simp only [IsOneToken, escapeQuotes, Lead.isEscaped, Lead.mode, if_true, if_neg again,
        List.cons_append, doubled, pairsQuotes, unslashed] at whole ⊢
      exact whole

/-- The text between quotes is one token, which ends where the quotes do, exactly when the quotes
behind its backslashes come in pairs. -/
theorem lex_escapeQuotes (quote : Quote) {post : List Char} (free : QuoteFree post) (lead : Lead)
    (content text : List Char) : IsOneToken quote post lead content text := by
  -- The induction is on the length, since a quote that is doubled already takes two characters.
  induction length : text.length using Nat.strongRecOn generalizing lead content text with
  | ind n ih =>
    subst length
    cases text with
    | nil => exact isOneToken_nil quote free lead content
    | cons c rest =>
      have later (lead : Lead) (content others : List Char)
          (shorter : others.length ≤ rest.length) : IsOneToken quote post lead content others :=
        ih others.length (Nat.lt_succ_of_le shorter) lead content others rfl
      by_cases same : c = quote.char
      · subst same
        cases lead with
        | none => exact isOneToken_doubled fun others => later .none _ others
        | even =>
          have odd := later .odd content rest (Nat.le_refl _)
          simpa [IsOneToken, escapeQuotes, Lead.isEscaped, Lead.mode, lex_cons, Mode.next,
            pairsQuotes] using odd
        | odd =>
          have even := later .even (content ++ [quote.char]) rest (Nat.le_refl _)
          simpa [IsOneToken, escapeQuotes, Lead.isEscaped, Lead.mode, lex_cons, Mode.next,
            pairsQuotes] using even
      · have kept := later (.ofChar c) (content ++ [c]) rest (Nat.le_refl _)
        cases lead with
        | none => exact isOneToken_other (by decide) same kept
        | even => exact isOneToken_other (by decide) same kept
        | odd =>
          have unpaired : pairsQuotes quote.char .odd (c :: rest) = false := by
            simp [pairsQuotes, same]
          unfold IsOneToken
          rw [unpaired, escapeQuotes_other same]
          simp only [Bool.false_eq_true, iff_false, not_exists]
          exact lex_behind_other same (by simp)

/-- A literal between two stretches of SQL is one token of the whole, and nothing else changes,
exactly when the quotes behind its backslashes come in pairs. -/
theorem tokens_around_textLiteral {before after : String}
    (plain : (scan .plain before.toList).1 = .plain) (free : QuoteFree after.toList)
    (text : String) :
    (∃ value, tokens (before ++ textLiteral text ++ after) =
        (scan .plain before.toList).2 ++ .literal value :: after.toList.map .symbol) ↔
      SlashedQuotesPaired '\x27' text.toList := by
  have whole : tokens (before ++ textLiteral text ++ after) =
      (scan .plain before.toList).2 ++
        lex (.inside .single [])
          (escapeQuotes '\x27' false text.toList ++ '\x27' :: after.toList) := by
    have opened : Mode.plain.next '\x27' = (.inside .single [], []) := rfl
    rw [tokens, String.toList_append, String.toList_append, List.append_assoc, lex_append, plain]
    simp [textLiteral, quoted, lex_cons, opened]
  have inner := lex_escapeQuotes .single free .none [] text.toList
  unfold IsOneToken at inner
  rw [pairsQuotes_iff (Quote.char_ne_slash .single)] at inner
  simpa [whole, Token.literal, Lead.mode, Lead.isEscaped, Lead.Admits, Quote.char] using inner

end SpatialFilter.Sql
