import SpatialFilter.Markup.Entity
import SpatialFilter.Proofs.Results
import SpatialFilter.Proofs.Words

/-!
# Escaped texts

A text is written with an entity for each character that means something in markup, and every other
character as it is.  What is written so holds no such character but the `&` of its entities, and
reading the entities gives back the text.
-/

namespace SpatialFilter.Markup

open SpatialFilter.Text

/-- The name of the entity that a character is written with. -/
def entityName? (c : Char) : Option (List Char) :=
  match c with
  | '&' => some "amp".toList
  | '<' => some "lt".toList
  | '>' => some "gt".toList
  | '"' => some "quot".toList
  | '\x27' => some "apos".toList
  | _ => none

/-- A character as it is written in texts and attribute values. -/
def escapeChar (c : Char) : List Char :=
  match entityName? c with
  | some name => '&' :: name ++ [';']
  | none => [c]

def escape (text : List Char) : List Char :=
  text.flatMap escapeChar

theorem escape_ne_nil {text : List Char} (some_text : text ≠ []) : escape text ≠ [] := by
  cases text with
  | nil => exact absurd rfl some_text
  | cons c rest =>
    have written : escapeChar c ≠ [] := by
      unfold escapeChar
      split <;> simp
    simp [escape, written]

/-- What holds of the entities: their names hold no mark, and are read as their characters. -/
theorem entity_of_name {c : Char} {name : List Char} (named : entityName? c = some name) :
    (∀ part ∈ name, inEntityName part = true ∧ entityName? part = none) ∧
      ∀ start stop, entityCharacter start stop name = .ok c := by
  unfold entityName? at named
  split at named
  all_goals cases named
  all_goals
    refine ⟨?_, fun _ _ => rfl⟩
    simp [inEntityName, entityName?]

/-- A written text holds no character that has an entity, but `&`. -/
theorem not_mem_escape (text : List Char) {mark : Char} (marked : entityName? mark ≠ none)
    (other : mark ≠ '&') : mark ∉ escape text := by
  intro inside
  obtain ⟨c, -, written⟩ := List.mem_flatMap.1 inside
  unfold escapeChar at written
  split at written
  · rename_i name named
    simp only [List.cons_append, List.mem_cons, List.mem_append, List.not_mem_nil, or_false]
      at written
    rcases written with rfl | part | rfl
    · exact other rfl
    · exact marked ((entity_of_name named).1 mark part).2
    · exact marked rfl
  · rename_i unnamed
    rw [List.mem_singleton.1 written] at marked
    exact marked unnamed

/-! ## Reading the entities -/

/-- An entity at the start of a text is read as its character. -/
theorem unescapeFrom_entity {c : Char} {name : List Char} (named : entityName? c = some name)
    (total position : Nat) (rest : List Char) :
    ∃ next, unescapeFrom total position ('&' :: (name ++ ';' :: rest)) =
      (unescapeFrom total next rest).map (c :: ·) := by
  obtain ⟨parts, read⟩ := entity_of_name named
  have inside : ∀ part ∈ name, inEntityName part = true := fun part member =>
    (parts part member).1
  have stops : StopsAt inEntityName (';' :: rest) := stopsAt_cons rest rfl
  have dropped := dropWhile_run inside stops
  refine ⟨position + 1 + byteLength name + 1, ?_⟩
  rw [unescapeFrom, if_pos rfl]
  simp only [takeWhile_run inside stops]
  split
  · rename_i after found
    rw [dropped] at found
    cases found
    rw [read]
    cases unescapeFrom total (position + 1 + byteLength name + 1) rest <;> rfl
  · rename_i other
    exact absurd dropped (other rest)

/-- A written character at the start of a text is read as the character, whatever follows. -/
theorem unescapeFrom_escapeChar (c : Char) (total position : Nat) (rest : List Char) :
    ∃ next, unescapeFrom total position (escapeChar c ++ rest) =
      (unescapeFrom total next rest).map (c :: ·) := by
  unfold escapeChar
  split
  · rename_i name named
    rw [List.cons_append, List.cons_append, List.append_assoc, List.singleton_append]
    exact unescapeFrom_entity named total position rest
  · rename_i unnamed
    have plain : c ≠ '&' := by
      rintro rfl
      cases unnamed
    refine ⟨position + c.utf8Size, ?_⟩
    rw [List.singleton_append, unescapeFrom, if_neg plain]
    cases unescapeFrom total (position + c.utf8Size) rest <;> rfl

/-- A text that is escaped is unescaped to itself, whatever the positions. -/
theorem unescapeFrom_escape (text : List Char) (total position : Nat) :
    unescapeFrom total position (escape text) = .ok text := by
  induction text generalizing position with
  | nil => simp [escape, unescapeFrom]
  | cons c rest ih =>
    obtain ⟨next, read⟩ := unescapeFrom_escapeChar c total position (escape rest)
    rw [escape, List.flatMap_cons, ← escape, read, ih]
    rfl

/-- Reading the entities of a written text gives back the text. -/
theorem unescape_escape (text : List Char) : unescape (escape text) = .ok text :=
  mapError_eq_ok.2 (unescapeFrom_escape text _ _)

end SpatialFilter.Markup
