/-!
# Tokens of an SQL text

The tokens of a text under the default rules of the database: a literal ends at the first single
quote that is not doubled, a quoted identifier at the first double quote that is not, and a
backslash is a character like any other.  Everything outside quotes is taken one character at a
time, blanks included, so that two texts with the same tokens here are the same outside their
quotes and the database cuts them into the same words, numbers and operators.
-/

namespace SpatialFilter.Sql

/-- The two kinds of quotes. -/
inductive Quote where
  | single
  | double
  deriving DecidableEq, Repr

namespace Quote

def char : Quote → Char
  | .single => '\x27'
  | .double => '"'

/-- The quote that a character is. -/
def ofChar? (c : Char) : Option Quote :=
  if c = '\x27' then some .single else if c = '"' then some .double else none

theorem ofChar?_char (quote : Quote) : ofChar? quote.char = some quote := by
  cases quote <;> rfl

theorem ne_char_of_ofChar?_eq_none {c : Char} (plain : ofChar? c = none) (quote : Quote) :
    c ≠ quote.char := by
  rintro rfl
  rw [ofChar?_char] at plain
  cases plain

end Quote

inductive Token where
  | symbol (c : Char)
  /-- A literal or a quoted identifier, with the text that it stands for. -/
  | quoted (quote : Quote) (content : List Char)
  /-- Quotes that the text ends in. -/
  | unclosed (quote : Quote) (content : List Char)
  deriving DecidableEq, Repr

namespace Token

/-- A string literal. -/
def literal (content : List Char) : Token :=
  .quoted .single content

def isSymbol : Token → Bool
  | .symbol _ => true
  | _ => false

end Token

/-- Where a scan stands. -/
inductive Mode where
  | plain
  | inside (quote : Quote) (content : List Char)
  /-- Behind a quote inside quotes, which ends the token unless it turns out to be doubled. -/
  | behind (quote : Quote) (content : List Char)
  deriving DecidableEq, Repr

namespace Mode

/-- A character outside quotes. -/
def start (c : Char) : Mode × List Token :=
  match Quote.ofChar? c with
  | some quote => (.inside quote [], [])
  | none => (.plain, [.symbol c])

/-- The mode after one more character, and the tokens that it completes. -/
def next : Mode → Char → Mode × List Token
  | .plain, c => start c
  | .inside quote content, c =>
    if c = quote.char then (.behind quote content, []) else (.inside quote (content ++ [c]), [])
  | .behind quote content, c =>
    if c = quote.char then (.inside quote (content ++ [c]), [])
    else ((start c).1, .quoted quote content :: (start c).2)

/-- The tokens that the end of the text completes. -/
def finish : Mode → List Token
  | .plain => []
  | .inside quote content => [.unclosed quote content]
  | .behind quote content => [.quoted quote content]

def isOutside : Mode → Bool
  | .inside _ _ => false
  | _ => true

end Mode

/-- The mode after a stretch of text, and the tokens completed in it. -/
def scan : Mode → List Char → Mode × List Token
  | mode, [] => (mode, [])
  | mode, c :: rest =>
    ((scan (mode.next c).1 rest).1, (mode.next c).2 ++ (scan (mode.next c).1 rest).2)

/-- The tokens of a text that is read to its end. -/
def lex (mode : Mode) (text : List Char) : List Token :=
  (scan mode text).2 ++ (scan mode text).1.finish

def tokens (sql : String) : List Token :=
  lex .plain sql.toList

/-- The text ends outside quotes, so that what follows it cannot become a part of its quotes
unless it begins with one. -/
def EndsOutside (sql : String) : Prop :=
  (scan .plain sql.toList).1.isOutside = true

instance (sql : String) : Decidable (EndsOutside sql) :=
  inferInstanceAs (Decidable (_ = true))

/-! ## Scanning in two parts -/

/-- A text is scanned in one go or in two. -/
theorem scan_append (mode : Mode) (text rest : List Char) :
    scan mode (text ++ rest) =
      ((scan (scan mode text).1 rest).1,
        (scan mode text).2 ++ (scan (scan mode text).1 rest).2) := by
  induction text generalizing mode with
  | nil => simp [scan]
  | cons c text ih => simp [scan, ih]

theorem lex_append (mode : Mode) (text rest : List Char) :
    lex mode (text ++ rest) = (scan mode text).2 ++ lex (scan mode text).1 rest := by
  simp [lex, scan_append]

theorem lex_nil (mode : Mode) : lex mode [] = mode.finish := rfl

theorem lex_cons (mode : Mode) (c : Char) (rest : List Char) :
    lex mode (c :: rest) = (mode.next c).2 ++ lex (mode.next c).1 rest := by
  simp [lex, scan]

/-- Behind closed quotes, a character that is no quote is read as it would be at the start. -/
theorem next_of_outside {mode : Mode} (outside : mode.isOutside = true) {c : Char}
    (plain : Quote.ofChar? c = none) : (mode.next c).1 = .plain := by
  cases mode with
  | plain => simp [Mode.next, Mode.start, plain]
  | inside quote content => cases outside
  | behind quote content =>
    simp [Mode.next, Mode.start, plain, Quote.ne_char_of_ofChar?_eq_none plain quote]

/-! ## Stretches without quotes -/

def QuoteFree (text : List Char) : Prop :=
  ∀ c ∈ text, Quote.ofChar? c = none

instance (text : List Char) : Decidable (QuoteFree text) :=
  decidable_of_iff (text.all (fun c => Quote.ofChar? c == none) = true) <| by
    simp [QuoteFree]

theorem QuoteFree.append {text rest : List Char} (free : QuoteFree text)
    (later : QuoteFree rest) : QuoteFree (text ++ rest) := by
  intro c member
  rcases List.mem_append.mp member with inText | inRest
  · exact free c inText
  · exact later c inRest

theorem QuoteFree.head {c : Char} {rest : List Char} (free : QuoteFree (c :: rest)) :
    Quote.ofChar? c = none :=
  free c List.mem_cons_self

theorem QuoteFree.tail {c : Char} {rest : List Char} (free : QuoteFree (c :: rest)) :
    QuoteFree rest :=
  fun other member => free other (List.mem_cons_of_mem c member)

theorem scan_plain_of_quoteFree {text : List Char} (free : QuoteFree text) :
    scan .plain text = (.plain, text.map .symbol) := by
  induction text with
  | nil => rfl
  | cons c rest ih => simp [scan, Mode.next, Mode.start, free.head, ih free.tail]

/-- Plain text around a stretch that closes its quotes leaves the scan plain, when there is some
behind it. -/
theorem scan_around {before sql after : String} (free : QuoteFree before.toList)
    (closed : EndsOutside sql) (later : QuoteFree after.toList) (some : after.toList ≠ []) :
    (scan .plain (before ++ sql ++ after).toList).1 = .plain := by
  have outside : (scan .plain (before ++ sql).toList).1.isOutside = true := by
    rw [String.toList_append, scan_append, scan_plain_of_quoteFree free]
    exact closed
  rw [String.toList_append, scan_append]
  cases text : after.toList with
  | nil => exact absurd text some
  | cons c rest =>
    rw [text] at later
    simp only [scan]
    rw [next_of_outside outside later.head, scan_plain_of_quoteFree later.tail]

/-- Outside quotes, a text without quotes is made of symbols only. -/
theorem lex_plain_of_quoteFree {text : List Char} (free : QuoteFree text) :
    lex .plain text = text.map .symbol := by
  simp [lex, scan_plain_of_quoteFree free, Mode.finish]

/-- Quotes that are closed before a stretch without quotes are a token of their own. -/
theorem lex_behind_of_quoteFree (quote : Quote) (content : List Char) {text : List Char}
    (free : QuoteFree text) :
    lex (.behind quote content) text = .quoted quote content :: text.map .symbol := by
  cases text with
  | nil => rfl
  | cons c rest =>
    have other := Quote.ne_char_of_ofChar?_eq_none free.head quote
    simp [lex_cons, Mode.next, Mode.start, free.head, other, lex_plain_of_quoteFree free.tail]

/-- Quotes that are open before a stretch without quotes stay open. -/
theorem lex_inside_of_quoteFree (quote : Quote) (content : List Char) {text : List Char}
    (free : QuoteFree text) :
    lex (.inside quote content) text = [.unclosed quote (content ++ text)] := by
  induction text generalizing content with
  | nil => simp [lex_nil, Mode.finish]
  | cons c rest ih =>
    have other := Quote.ne_char_of_ofChar?_eq_none free.head quote
    rw [lex_cons]
    simp only [Mode.next, other, if_false, List.nil_append]
    rw [ih (content ++ [c]) free.tail]
    simp

/-- A quote never goes unseen: where the text holds one, or the scan is not plain, some token is
no symbol. -/
theorem exists_not_symbol (mode : Mode) (text : List Char)
    (quotes : mode ≠ .plain ∨ ∃ quote : Quote, quote.char ∈ text) :
    ∃ token ∈ lex mode text, token.isSymbol = false := by
  induction text generalizing mode with
  | nil =>
    cases mode with
    | plain => simp at quotes
    | inside quote content =>
      exact ⟨.unclosed quote content, by simp [lex_nil, Mode.finish], rfl⟩
    | behind quote content =>
      exact ⟨.quoted quote content, by simp [lex_nil, Mode.finish], rfl⟩
  | cons c rest ih =>
    rw [lex_cons]
    cases mode with
    | plain =>
      cases kind : Quote.ofChar? c with
      | some quote =>
        obtain ⟨token, member, other⟩ := ih (.inside quote []) (Or.inl nofun)
        exact ⟨token, by simp [Mode.next, Mode.start, kind, member], other⟩
      | none =>
        obtain ⟨quote, found⟩ := quotes.resolve_left (fun other => other rfl)
        have later : quote.char ∈ rest := by
          simpa [Ne.symm (Quote.ne_char_of_ofChar?_eq_none kind quote)] using found
        obtain ⟨token, member, other⟩ := ih .plain (Or.inr ⟨quote, later⟩)
        exact ⟨token, by simp [Mode.next, Mode.start, kind, member], other⟩
    | inside quote content =>
      by_cases same : c = quote.char
      · obtain ⟨token, member, other⟩ := ih (.behind quote content) (Or.inl nofun)
        exact ⟨token, by simp [Mode.next, same, member], other⟩
      · obtain ⟨token, member, other⟩ := ih (.inside quote (content ++ [c])) (Or.inl nofun)
        exact ⟨token, by simp [Mode.next, same, member], other⟩
    | behind quote content =>
      by_cases same : c = quote.char
      · obtain ⟨token, member, other⟩ := ih (.inside quote (content ++ [c])) (Or.inl nofun)
        rw [same] at member
        exact ⟨token, by simp [Mode.next, same, member], other⟩
      · exact ⟨.quoted quote content, by simp [Mode.next, same], rfl⟩

end SpatialFilter.Sql
