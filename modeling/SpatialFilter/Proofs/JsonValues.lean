import Mathlib.Data.List.Forall2
import SpatialFilter.Json.Value
import SpatialFilter.Proofs.IntegerTexts
import SpatialFilter.Proofs.JsonStrings

/-!
# Reading JSON

A scanner reads a value off a text when it does so whatever blanks stand in front of the text and
whatever stands behind it, as long as no number goes on there (`Reads`).  Strings and 32-bit
integers are read off what is written for them, and strings, truth values and nulls are passed over.
The items of an array are read one after another (`reads_array`), and an object takes the state of
its reader through its keys, one member at a time (`run_members`).  Any blanks may stand between
tokens.
-/

namespace SpatialFilter.Json

open SpatialFilter.Configuration
open SpatialFilter.Number
open SpatialFilter.Text (StopsAt stopsAt_cons stopsAt_of_outside takeWhile_run dropWhile_run)

variable {α β : Type}

/-! ## Scanners -/

def IsGap (gap : List Char) : Prop :=
  ∀ c ∈ gap, isBlank c = true

/-- A number that ends here could not go on with this character. -/
def continuesNumber (c : Char) : Bool :=
  c.isDigit || c == '.' || c == 'e' || c == 'E'

/-- The scanner reads the value off the front of every document that has the text there, whatever
blanks stand before it, and leaves what stands behind it. -/
def Reads (scanner : Scanner α) (text : List Char) (value : α) : Prop :=
  ∀ gap rest, IsGap gap → StopsAt continuesNumber rest →
    scanner.run (gap ++ (text ++ rest)) = .ok (value, rest)

theorem isGap_nil : IsGap [] := nofun

theorem isGap_singleton {c : Char} (blank : isBlank c = true) : IsGap [c] := by
  intro d member
  obtain rfl := List.mem_singleton.mp member
  exact blank

theorem IsGap.append {gap more : List Char} (blank : IsGap gap) (more_blank : IsGap more) :
    IsGap (gap ++ more) := by
  intro c member
  rcases List.mem_append.mp member with inside | behind
  · exact blank c inside
  · exact more_blank c behind

theorem not_continuesNumber_of_isBlank {c : Char} (blank : isBlank c = true) :
    continuesNumber c = false := by
  simp only [isBlank, Bool.or_eq_true, beq_iff_eq, or_assoc] at blank
  rcases blank with rfl | rfl | rfl | rfl <;> rfl

theorem IsGap.stopsAt {gap : List Char} (blank : IsGap gap) : StopsAt continuesNumber gap :=
  stopsAt_of_outside fun c member => not_continuesNumber_of_isBlank (blank c member)

/-- Behind blanks and a mark that is not part of a number, no number goes on. -/
theorem stopsAt_gap_append {gap : List Char} {mark : Char} (blank : IsGap gap)
    (ends : continuesNumber mark = false) (rest : List Char) :
    StopsAt continuesNumber (gap ++ mark :: rest) := by
  by_cases empty : gap = []
  · subst empty
    exact stopsAt_cons rest ends
  · exact blank.stopsAt.append empty _

theorem run_bind {first : Scanner α} {next : α → Scanner β} {text rest : List Char} {value : α}
    (read : first.run text = .ok (value, rest)) :
    (first >>= next).run text = (next value).run rest := by
  rw [StateT.run_bind, read]
  rfl

theorem Reads.run {scanner : Scanner α} {text rest : List Char} {value : α}
    (reads : Reads scanner text value) (ends : StopsAt continuesNumber rest) :
    scanner.run (text ++ rest) = .ok (value, rest) :=
  reads [] rest isGap_nil ends

/-- Blanks in front of a value do not matter. -/
theorem Reads.behind {scanner : Scanner α} {text gap : List Char} {value : α}
    (reads : Reads scanner text value) (blank : IsGap gap) :
    Reads scanner (gap ++ text) value := by
  intro lead rest lead_blank ends
  rw [List.append_assoc, ← List.append_assoc]
  exact reads _ rest (lead_blank.append blank) ends

theorem Reads.map {scanner : Scanner α} {text : List Char} {value : α}
    (reads : Reads scanner text value) (f : α → β) :
    Reads (do return f (← scanner)) text (f value) := by
  intro lead rest lead_blank ends
  rw [run_bind (reads lead rest lead_blank ends)]
  rfl

theorem run_get_bind (next : List Char → Scanner α) (text : List Char) :
    (get >>= next).run text = (next text).run text := rfl

theorem run_set_bind (next : PUnit → Scanner α) (rest text : List Char) :
    (set rest >>= next).run text = (next ⟨⟩).run rest := rfl

theorem run_advance_bind (next : Unit → Scanner α) (c : Char) (rest : List Char) :
    (advance >>= next).run (c :: rest) = (next ()).run rest := rfl

theorem run_bound_bind (next : Nat → Scanner α) (text : List Char) :
    (bound >>= next).run text = (next (text.length + 1)).run text := rfl

theorem run_peek_eq (text : List Char) :
    peek.run text = .ok ((text.dropWhile isBlank).head?, text.dropWhile isBlank) := rfl

/-- The next character is the first that is no blank. -/
theorem run_peek {gap : List Char} {c : Char} (blank : IsGap gap) (shown : isBlank c = false)
    (rest : List Char) : peek.run (gap ++ c :: rest) = .ok (some c, c :: rest) := by
  have dropped : (gap ++ c :: rest).dropWhile isBlank = c :: rest :=
    dropWhile_run blank (stopsAt_cons rest shown)
  rw [run_peek_eq, dropped]
  rfl

/-- Where there are blanks only, there is no next character. -/
theorem run_peek_of_gap {gap : List Char} (blank : IsGap gap) : peek.run gap = .ok (none, []) := by
  have dropped : gap.dropWhile isBlank = [] := List.dropWhile_eq_nil_iff.mpr blank
  rw [run_peek_eq, dropped]
  rfl

theorem run_expectChar {gap : List Char} {c : Char} (blank : IsGap gap) (shown : isBlank c = false)
    (rest : List Char) : (expectChar c).run (gap ++ c :: rest) = .ok ((), rest) := by
  rw [expectChar, run_bind (run_peek blank shown rest)]
  simp only [if_true]
  rfl

theorem run_mark {c : Char} (shown : isBlank c = false) (rest : List Char) :
    (expectChar c).run (c :: rest) = .ok ((), rest) :=
  run_expectChar isGap_nil shown rest

/-! ## Strings -/

theorem writeText_append (content : String) (rest : List Char) :
    writeText content ++ rest = '"' :: (content.toList.flatMap encodeChar ++ '"' :: rest) := by
  simp [writeText]

theorem run_stringContent (content : String) (rest : List Char) :
    stringContent.run (content.toList.flatMap encodeChar ++ '"' :: rest) =
      .ok (content, rest) := by
  rw [stringContent, run_get_bind, scanString_written]
  change Except.ok (String.ofList content.toList, rest) = _
  rw [String.ofList_toList]

/-- What is written for a text is read as the text. -/
theorem reads_text (content : String) : Reads text (writeText content) content := by
  intro gap rest blank _
  rw [writeText_append, text, run_bind (run_peek blank rfl _)]
  simp only [if_true]
  exact run_stringContent content rest

/-! ## Integers -/

theorem le_foldl_digits (digits : List Char) (value : Nat) :
    value ≤ digits.foldl (fun value c => 10 * value + digitValue c) value := by
  induction digits generalizing value with
  | nil => exact Nat.le_refl value
  | cons c others ih =>
    have next : value ≤ 10 * value + digitValue c := by omega
    exact Nat.le_trans next (ih _)

/-- Digits that stay within the limit are all taken into the significand. -/
theorem absorb_eq {digits : List Char} {significand : Nat}
    (fits : digits.foldl (fun value c => 10 * value + digitValue c) significand ≤
      significandLimit) :
    absorb significand digits =
      (digits.foldl (fun value c => 10 * value + digitValue c) significand, 0) := by
  induction digits generalizing significand with
  | nil => rfl
  | cons digit others ih =>
    rw [List.foldl_cons] at fits ⊢
    rw [absorb]
    simp only [if_pos (Nat.le_trans (le_foldl_digits others _) fits)]
    exact ih fits

/-- The digits of a number have no zero in front, unless they are a zero. -/
theorem toDigits_no_leading_zero {value : Nat} {more : List Char}
    (leading : toDigits value = '0' :: more) : more = [] := by
  by_contra some_more
  have only := isDigits_toDigits value
  rw [leading, isDigits_iff] at only
  have value_eq : ofDigits more = value := by
    rw [← ofDigits_toDigits value, leading]
    rfl
  have suffix := toDigits_ofDigits_isSuffix
    (isDigits_iff.mpr ⟨some_more, fun c member => only.2 c (List.mem_cons_of_mem _ member)⟩)
  have shorter := suffix.length_le
  rw [value_eq, leading, List.length_cons] at shorter
  omega

/-- Digits are a whole number where no number goes on behind them, as long as it is small. -/
theorem run_wholePart (negative : Bool) {digits rest : List Char}
    (ends : StopsAt continuesNumber rest) (small : ofDigits digits ≤ 0x8000000000000000)
    (signed : negative = true → 0 < ofDigits digits) :
    (wholePart negative digits).run rest =
      .ok (.integer (if negative then -(ofDigits digits : Int) else ofDigits digits), rest) := by
  have absorbed : absorb 0 digits = (ofDigits digits, 0) :=
    absorb_eq (Nat.le_trans small (by decide))
  unfold wholePart
  rw [absorbed]
  dsimp only
  rw [run_get_bind]
  split
  next point => cases ends _ point
  next exponent => cases ends _ exponent
  next exponent => cases ends _ exponent
  next =>
    cases negative with
    | false => rfl
    | true => simp [signed rfl, small]; rfl

/-- The digits of a small number are read as the number with its sign. -/
theorem run_number (negative : Bool) {value : Nat} {rest : List Char}
    (ends : StopsAt continuesNumber rest) (small : value ≤ 0x8000000000000000)
    (signed : negative = true → 0 < value) :
    (number negative).run (toDigits value ++ rest) =
      .ok (.integer (if negative then -(value : Int) else value), rest) := by
  have only := isDigits_iff.mp (isDigits_toDigits value)
  have stops : StopsAt Char.isDigit rest := by
    intro c first
    have := ends c first
    simp only [continuesNumber, Bool.or_eq_false_iff] at this
    exact this.1.1.1
  have taken := takeWhile_run only.2 stops
  have dropped := dropWhile_run only.2 stops
  have whole := run_wholePart negative ends ((ofDigits_toDigits value).symm ▸ small)
    ((ofDigits_toDigits value).symm ▸ signed)
  rw [ofDigits_toDigits] at whole
  rw [number, run_get_bind]
  simp only [taken, dropped]
  cases digits_eq : toDigits value with
  | nil => exact absurd digits_eq only.1
  | cons c more =>
    have no_zero : ¬ (c = '0' ∧ c :: more ≠ [c]) := by
      rintro ⟨rfl, longer⟩
      exact longer (by rw [toDigits_no_leading_zero digits_eq])
    simp only [List.cons_append, List.isEmpty_cons, Bool.false_eq_true, if_false, if_neg no_zero]
    rw [run_set_bind, ← digits_eq]
    exact whole

/-- What begins with a digit is a number. -/
theorem run_found_of_isDigit {c : Char} (digit : c.isDigit = true) (rest : List Char) :
    found.run (c :: rest) = (number false).run (c :: rest) := by
  rw [found, run_get_bind]
  dsimp only
  split
  iterate 7 cases digit
  rw [if_pos digit]

theorem run_found_int32Text (value : Int32) {rest : List Char}
    (ends : StopsAt continuesNumber rest) :
    found.run ((int32Text value).toList ++ rest) = .ok (.integer value.toInt, rest) := by
  have low : -2147483648 ≤ value.toInt := value.le_toInt
  have high : value.toInt < 2147483648 := value.toInt_lt
  have small : value.toInt.natAbs ≤ 0x8000000000000000 := by omega
  unfold int32Text integerText
  split
  next negative =>
    have number_eq := run_number true ends small fun _ => by omega
    have value_eq : -(value.toInt.natAbs : Int) = value.toInt := by omega
    rw [if_pos rfl, value_eq] at number_eq
    simp only [String.toList_append, String.toList_ofList]
    exact number_eq
  next nonnegative =>
    have number_eq := run_number false ends small nofun
    have value_eq : (value.toInt.natAbs : Int) = value.toInt := by omega
    have only := isDigits_iff.mp (isDigits_toDigits value.toInt.natAbs)
    rw [if_neg (by decide), value_eq] at number_eq
    rw [String.toList_ofList]
    cases digits_eq : toDigits value.toInt.natAbs with
    | nil => exact absurd digits_eq only.1
    | cons c more =>
      have digit : c.isDigit = true := only.2 c (by rw [digits_eq]; exact List.mem_cons_self)
      rw [digits_eq] at number_eq
      exact (run_found_of_isDigit digit (more ++ rest)).trans number_eq

/-- The text of an integer begins with a character that is no blank. -/
theorem exists_int32Text_eq (value : Int32) :
    ∃ c more, (int32Text value).toList = c :: more ∧ isBlank c = false := by
  have writes := writesInt_int32Text value
  obtain ⟨c, more, text_eq⟩ := List.exists_cons_of_ne_nil writes.ne_nil
  refine ⟨c, more, text_eq, Bool.eq_false_iff.mpr fun blank => ?_⟩
  have shown := writes.noBlank c (by rw [text_eq]; exact List.mem_cons_self)
  simp only [isBlank, Bool.or_eq_true, beq_iff_eq, or_assoc] at blank
  rcases blank with rfl | rfl | rfl | rfl <;> cases shown

/-- The text of a 32-bit integer is read as the integer. -/
theorem reads_int32 (value : Int32) : Reads int32 (int32Text value).toList value := by
  intro gap rest blank ends
  obtain ⟨c, more, text_eq, shown⟩ := exists_int32Text_eq value
  have found_eq := run_found_int32Text value ends
  rw [text_eq, List.cons_append] at found_eq
  have taken : toInt32? value.toInt = some value := toInt32_eq_some_iff.mpr rfl
  rw [text_eq, List.cons_append, int32, run_bind (run_peek blank shown _)]
  simp only [Option.isNone_some, Bool.false_eq_true, if_false]
  rw [run_bind found_eq]
  simp only [taken]
  rfl

/-! ## Values that are passed over -/

theorem run_expectLetters (letters rest : List Char) :
    (expectLetters letters).run (letters ++ rest) = .ok ((), rest) := by
  induction letters with
  | nil => rfl
  | cons letter others ih =>
    rw [expectLetters, run_get_bind, List.cons_append]
    simp only [if_true]
    rw [run_set_bind]
    exact ih

/-- A value that is no object, no array and no number. -/
inductive IsPlainValue : List Char → Prop
  | text (content : String) : IsPlainValue (writeText content)
  | yes : IsPlainValue ['t', 'r', 'u', 'e']
  | no : IsPlainValue ['f', 'a', 'l', 's', 'e']
  | null : IsPlainValue ['n', 'u', 'l', 'l']

theorem reads_skipValue {text : List Char} (plain : IsPlainValue text) (depth : Nat) :
    Reads (skipValue (depth + 1)) text () := by
  intro gap rest blank _
  rw [skipValue]
  cases plain with
  | text content =>
    rw [writeText_append, run_bind (run_peek blank rfl _)]
    dsimp only
    rw [if_neg (by decide), run_advance_bind]
    change (liftM (skipString .plain (content.toList.flatMap encodeChar ++ '"' :: rest)) >>=
      set : Scanner Unit).run _ = _
    rw [skipString_written]
    rfl
  | yes =>
    rw [List.cons_append, run_bind (run_peek blank rfl _)]
    exact run_expectLetters ['r', 'u', 'e'] rest
  | no =>
    rw [List.cons_append, run_bind (run_peek blank rfl _)]
    exact run_expectLetters ['a', 'l', 's', 'e'] rest
  | null =>
    rw [List.cons_append, run_bind (run_peek blank rfl _)]
    exact run_expectLetters ['u', 'l', 'l'] rest

/-- A plain value is passed over. -/
theorem reads_skip {text : List Char} (plain : IsPlainValue text) : Reads skip text () := by
  intro gap rest blank ends
  rw [skip, run_bound_bind]
  exact reads_skipValue plain _ gap rest blank ends

/-! ## Lists -/

/-- A text that writes the value, with any blanks around it. -/
def Spaced (writes : α → List Char → Prop) (value : α) (part : List Char) : Prop :=
  ∃ before text after, IsGap before ∧ IsGap after ∧ writes value text ∧
    part = before ++ (text ++ after)

/-- The values in order between two marks, with commas between them and blanks anywhere. -/
def Encloses (opening closing : Char) (writes : α → List Char → Prop) (values : List α)
    (text : List Char) : Prop :=
  ∃ parts gap, List.Forall₂ (Spaced writes) values parts ∧ IsGap gap ∧
    text = opening :: (separated parts ++ (gap ++ [closing]))

/-- What separates a part from the one before it, if there is one. -/
def commaBefore (isFirst : Bool) : List Char :=
  if isFirst then [] else [',']

/-- Parts with a comma before each, the first one aside. -/
def listed : (isFirst : Bool) → List (List Char) → List Char
  | _, [] => []
  | isFirst, part :: others => commaBefore isFirst ++ (part ++ listed false others)

theorem separated_eq_listed (parts : List (List Char)) : separated parts = listed true parts := by
  induction parts with
  | nil => rfl
  | cons part others ih =>
    cases others with
    | nil => simp [separated, listed, commaBefore]
    | cons second rest => simp [separated, ih, listed, commaBefore]

theorem length_le_listed (parts : List (List Char)) :
    parts.length ≤ (listed false parts).length := by
  induction parts with
  | nil => exact Nat.le_refl 0
  | cons part others ih =>
    rw [listed, List.length_append, List.length_append, List.length_cons]
    change _ ≤ 1 + _
    omega

/-- A run from the first part on has enough steps, as each part but the first has a comma. -/
theorem length_lt_bound {writes : α → List Char → Prop} {values : List α}
    {parts : List (List Char)} (written : List.Forall₂ (Spaced writes) values parts)
    (rest : List Char) (some_rest : rest ≠ []) :
    values.length < (listed true parts ++ rest).length + 1 := by
  have rest_length := List.length_pos_of_ne_nil some_rest
  rw [List.length_append, written.length_eq]
  cases parts with
  | nil => exact Nat.succ_pos _
  | cons part others =>
    have others_length := length_le_listed others
    rw [listed, List.length_append, List.length_append, List.length_cons]
    omega

/-- No number goes on behind a part: there is a comma or the closing mark. -/
theorem stopsAt_listed {after gap : List Char} (closing : Char) (after_blank : IsGap after)
    (blank : IsGap gap) (ends : continuesNumber closing = false) (parts : List (List Char))
    (rest : List Char) :
    StopsAt continuesNumber (after ++ (listed false parts ++ (gap ++ closing :: rest))) := by
  cases parts with
  | nil =>
    rw [listed, List.nil_append, ← List.append_assoc]
    exact stopsAt_gap_append (after_blank.append blank) ends rest
  | cons part others => exact stopsAt_gap_append after_blank rfl _

/-! ## Arrays -/

/-- What a text begins with that an array goes on with. -/
def BeginsItem (text : List Char) : Prop :=
  ∃ c more, text = c :: more ∧ isBlank c = false ∧ c ≠ ']'

theorem run_nextItem_close (isFirst : Bool) {gap : List Char} (blank : IsGap gap)
    (rest : List Char) :
    (nextItem isFirst).run (gap ++ ']' :: rest) = .ok (false, ']' :: rest) := by
  rw [nextItem, run_bind (run_peek blank rfl rest)]
  rfl

/-- An array goes on with a text that begins an item, behind a comma unless it is the first. -/
theorem run_nextItem {gap before text : List Char} (isFirst : Bool) (blank : IsGap gap)
    (before_blank : IsGap before) (begins : BeginsItem text) (rest : List Char) :
    (nextItem isFirst).run (gap ++ (commaBefore isFirst ++ (before ++ (text ++ rest)))) =
      .ok (true, text ++ rest) := by
  obtain ⟨c, more, rfl, shown, goes_on⟩ := begins
  cases isFirst with
  | true =>
    have first := run_peek (blank.append before_blank) shown (more ++ rest)
    rw [List.append_assoc] at first
    rw [commaBefore, if_pos rfl, List.nil_append, List.cons_append, nextItem, run_bind first]
    simp only [if_neg goes_on, if_true]
    rfl
  | false =>
    have second := run_peek before_blank shown (more ++ rest)
    rw [commaBefore, if_neg (by decide), List.singleton_append, List.cons_append, nextItem,
      run_bind (run_peek blank rfl _)]
    simp only [if_neg (show (',' : Char) ≠ ']' by decide), Bool.false_eq_true, if_false, if_true]
    rw [run_advance_bind, run_bind second]
    simp only [if_neg goes_on]
    rfl

section Items

variable {item : Scanner α} {writes : α → List Char → Prop}
  (reads : ∀ value text, writes value text → Reads item text value)
  (begins : ∀ value text, writes value text → BeginsItem text)

include reads begins

/-- Items are read in order up to the closing bracket, with enough steps for all of them. -/
theorem run_items {values : List α} {parts : List (List Char)}
    (written : List.Forall₂ (Spaced writes) values parts) (isFirst : Bool) {bound : Nat}
    (enough : values.length < bound) {after gap : List Char} (after_blank : IsGap after)
    (blank : IsGap gap) (rest : List Char) :
    (items item bound isFirst).run (after ++ (listed isFirst parts ++ (gap ++ ']' :: rest))) =
      .ok (values, ']' :: rest) := by
  obtain ⟨bound, rfl⟩ := Nat.exists_eq_add_one_of_ne_zero (Nat.ne_zero_of_lt enough)
  induction written generalizing isFirst bound after with
  | nil =>
    rw [listed, List.nil_append, ← List.append_assoc, items,
      run_bind (run_nextItem_close isFirst (after_blank.append blank) rest)]
    rfl
  | @cons value part values parts spaced _ ih =>
    obtain ⟨before, text, behind, before_blank, behind_blank, writes_text, rfl⟩ := spaced
    rw [List.length_cons, Nat.add_lt_add_iff_right] at enough
    obtain ⟨bound, rfl⟩ := Nat.exists_eq_add_one_of_ne_zero (Nat.ne_zero_of_lt enough)
    have ends := stopsAt_listed ']' behind_blank blank rfl parts rest
    simp only [listed, List.append_assoc]
    rw [items, run_bind (run_nextItem isFirst after_blank before_blank
      (begins value text writes_text) _)]
    simp only [if_true]
    rw [run_bind ((reads value text writes_text).run ends),
      run_bind (ih false behind_blank bound enough)]
    rfl

/-- An array is read as its values when each text is read as its value. -/
theorem reads_array (expected : String) {values : List α} {text : List Char}
    (written : Encloses '[' ']' writes values text) : Reads (array expected item) text values := by
  intro lead rest lead_blank _
  obtain ⟨parts, gap, spaced, blank, rfl⟩ := written
  have enough := length_lt_bound spaced (gap ++ ']' :: rest) (by simp)
  have read := run_items reads begins spaced true enough isGap_nil blank rest
  rw [separated_eq_listed, array]
  simp only [List.cons_append, List.append_assoc, List.nil_append] at read ⊢
  rw [run_bind (run_peek lead_blank rfl _)]
  simp only [if_true]
  rw [run_advance_bind, run_bound_bind, run_bind read, run_bind (run_mark rfl rest)]
  rfl

end Items

/-! ## Objects -/

/-- A key and a value, with a colon and any blanks between them. -/
def WritesMember (entry : String × List Char) (text : List Char) : Prop :=
  ∃ gap before, IsGap gap ∧ IsGap before ∧
    text = writeText entry.1 ++ (gap ++ ':' :: (before ++ entry.2))

/-- The member's step takes the state after some keys to the state after one key more, whenever the
member may stand there: one of the keys that matter must not have been there before. -/
def StepsThrough {σ : Type} (member : σ → String → Scanner σ) (keys : List String)
    (state : List String → σ) (fits : String × List Char → Prop) : Prop :=
  ∀ seen key value, fits (key, value) → (key ∈ keys → key ∉ seen) → ∀ gap, IsGap gap →
    Reads (member (state seen) key) (':' :: (gap ++ value)) (state (key :: seen))

theorem run_keyText (key : String) (rest : List Char) :
    keyText.run (writeText key ++ rest) = .ok (key, rest) := by
  rw [writeText_append, keyText, run_advance_bind]
  exact run_stringContent key rest

theorem run_nextMember_close (isFirst : Bool) {gap : List Char} (blank : IsGap gap)
    (rest : List Char) :
    (nextMember isFirst).run (gap ++ '\x7d' :: rest) = .ok (false, '\x7d' :: rest) := by
  rw [nextMember, run_bind (run_peek blank rfl rest)]
  rfl

theorem run_nextMember {gap before : List Char} (isFirst : Bool) (blank : IsGap gap)
    (before_blank : IsGap before) (key : String) (rest : List Char) :
    (nextMember isFirst).run
        (gap ++ (commaBefore isFirst ++ (before ++ (writeText key ++ rest)))) =
      .ok (true, writeText key ++ rest) := by
  rw [writeText_append]
  cases isFirst with
  | true =>
    have first := run_peek (blank.append before_blank) (c := '"') rfl
      (key.toList.flatMap encodeChar ++ '"' :: rest)
    rw [List.append_assoc] at first
    rw [commaBefore, if_pos rfl, List.nil_append, nextMember, run_bind first]
    rfl
  | false =>
    have second := run_peek before_blank (c := '"') rfl
      (key.toList.flatMap encodeChar ++ '"' :: rest)
    rw [commaBefore, if_neg (by decide), List.singleton_append, nextMember,
      run_bind (run_peek blank rfl _)]
    simp only [if_neg (show (',' : Char) ≠ '\x7d' by decide), Bool.false_eq_true, if_false,
      if_true]
    rw [run_advance_bind, run_bind second]
    rfl

section Members

variable {σ : Type} {member : σ → String → Scanner σ} {keys : List String}
  {state : List String → σ} {fits : String × List Char → Prop}

/-- A run over members ends in the state after all of their keys. -/
theorem run_members (steps : StepsThrough member keys state fits)
    {entries : List (String × List Char)} {parts : List (List Char)}
    (written : List.Forall₂ (Spaced WritesMember) entries parts)
    (fit : ∀ entry ∈ entries, fits entry)
    (once : entries.Pairwise fun first second => first.1 = second.1 → first.1 ∉ keys)
    {seen : List String} (fresh : ∀ entry ∈ entries, entry.1 ∈ keys → entry.1 ∉ seen)
    (isFirst : Bool) {bound : Nat} (enough : entries.length < bound) {after gap : List Char}
    (after_blank : IsGap after) (blank : IsGap gap) (rest : List Char) :
    (members keyText member bound isFirst (state seen)).run
        (after ++ (listed isFirst parts ++ (gap ++ '\x7d' :: rest))) =
      .ok (state ((entries.map Prod.fst).reverse ++ seen), '\x7d' :: rest) := by
  obtain ⟨bound, rfl⟩ := Nat.exists_eq_add_one_of_ne_zero (Nat.ne_zero_of_lt enough)
  induction written generalizing isFirst bound after seen with
  | nil =>
    rw [listed, List.nil_append, ← List.append_assoc, members,
      run_bind (run_nextMember_close isFirst (after_blank.append blank) rest)]
    rfl
  | @cons entry part entries parts spaced _ ih =>
    obtain ⟨before, text, behind, before_blank, behind_blank, ⟨lead, inner, lead_blank,
      inner_blank, rfl⟩, rfl⟩ := spaced
    rw [List.pairwise_cons] at once
    rw [List.forall_mem_cons] at fit fresh
    rw [List.length_cons, Nat.add_lt_add_iff_right] at enough
    obtain ⟨bound, rfl⟩ := Nat.exists_eq_add_one_of_ne_zero (Nat.ne_zero_of_lt enough)
    have still_fresh : ∀ other ∈ entries, other.1 ∈ keys → other.1 ∉ entry.1 :: seen := by
      intro other member known
      rw [List.mem_cons, not_or]
      exact ⟨fun same => once.1 other member same.symm (same ▸ known), fresh.2 other member known⟩
    have step := (steps seen entry.1 entry.2 fit.1 fresh.1 inner inner_blank).behind lead_blank
    have ends := stopsAt_listed '\x7d' behind_blank blank rfl parts rest
    have others := ih fit.2 once.2 still_fresh false behind_blank bound enough
    have read := step.run ends
    rw [List.map_cons, List.reverse_cons, List.append_assoc]
    simp only [listed, List.append_assoc, List.cons_append] at read ⊢
    rw [members, run_bind (run_nextMember isFirst after_blank before_blank entry.1 _)]
    simp only [if_true]
    rw [run_bind (run_keyText entry.1 _), run_bind read]
    exact others

end Members

end SpatialFilter.Json
