import DumpLens.Markup.Escape

/-! Decoding of markup escapes, which gives back what was escaped. -/

namespace DumpLens.Markup

/-! ## Decoding -/

/-- The escapes that markup is written with, and the characters they stand for. -/
def entities : List (Text × Char) := [
  ("&amp;".toList, '&'),
  ("&lt;".toList, '<'),
  ("&gt;".toList, '>'),
  ("&quot;".toList, '"'),
  ("&#x27;".toList, '\'')]

/-- The escape at the front of a text. -/
def entityAt? (input : Text) : Option (Text × Char) :=
  entities.find? fun entity => entity.1.isPrefixOf input

/-- What escaped text stands for. -/
def decode : Text → Text
  | [] => []
  | character :: rest =>
    match entityAt? (character :: rest) with
    | some (name, decoded) => decoded :: decode (rest.drop (name.length - 1))
    | none => character :: decode rest
termination_by text => text.length
decreasing_by
  · simp only [List.length_cons, List.length_drop]
    omega
  · simp

@[simp] theorem decode_nil : decode [] = [] := by
  rw [decode]

/-- Only an ampersand starts an escape. -/
theorem decode_cons {character : Char} (other : character ≠ '&') (rest : Text) :
    decode (character :: rest) = character :: decode rest := by
  have noEntity : entityAt? (character :: rest) = none := by
    simp [entityAt?, entities, Ne.symm other]
  rw [decode, noEntity]

theorem decode_entity {name : Text} {decoded : Char} (listed : (name, decoded) ∈ entities)
    (rest : Text) : decode (name ++ rest) = decoded :: decode rest := by
  simp only [entities, List.mem_cons, List.not_mem_nil, or_false, Prod.mk.injEq] at listed
  rcases listed with ⟨rfl, rfl⟩ | ⟨rfl, rfl⟩ | ⟨rfl, rfl⟩ | ⟨rfl, rfl⟩ | ⟨rfl, rfl⟩ <;>
    simp [decode, entityAt?, entities]

/-! ## Escaped characters -/

/-- A character is written as an escape, or as itself where it cannot be mistaken for
markup. -/
inductive StandsFor : Text → Char → Prop
  | entity {name : Text} {character : Char} (listed : (name, character) ∈ entities) :
      StandsFor name character
  | itself {character : Char} (notMark : character ≠ '&')
      (notOpening : character ≠ '<') (notClosing : character ≠ '>') :
      StandsFor [character] character

namespace StandsFor

variable {written : Text} {character : Char}

theorem decode_append (stands : StandsFor written character) (rest : Text) :
    decode (written ++ rest) = character :: decode rest := by
  cases stands with
  | entity listed => exact decode_entity listed rest
  | itself notMark => exact decode_cons notMark rest

theorem ne_nil (stands : StandsFor written character) : written ≠ [] := by
  cases stands with
  | entity listed =>
      intro empty
      subst empty
      revert listed
      simp [entities]
  | itself => exact List.cons_ne_nil _ _

/-- What is written is made of the letters of escapes, or is the character itself. -/
theorem mem (stands : StandsFor written character) {other : Char} (member : other ∈ written) :
    other ∈ entities.flatMap Prod.fst ∨
      other = character ∧ other ≠ '&' ∧ other ≠ '<' ∧ other ≠ '>' := by
  cases stands with
  | entity listed =>
      left
      exact List.mem_flatMap.mpr ⟨_, listed, member⟩
  | itself notMark notOpening notClosing =>
      right
      cases List.mem_singleton.mp member
      exact ⟨rfl, notMark, notOpening, notClosing⟩

theorem not_mem_opening (stands : StandsFor written character) : '<' ∉ written := by
  intro member
  rcases stands.mem member with letter | ⟨_, _, notOpening, _⟩
  · exact absurd letter (by decide)
  · exact notOpening rfl

theorem not_mem_closing (stands : StandsFor written character) : '>' ∉ written := by
  intro member
  rcases stands.mem member with letter | ⟨_, _, _, notClosing⟩
  · exact absurd letter (by decide)
  · exact notClosing rfl

theorem eq_of_mem_newline (stands : StandsFor written character) (member : '\n' ∈ written) :
    character = '\n' := by
  rcases stands.mem member with letter | ⟨equal, _⟩
  · exact absurd letter (by decide)
  · exact equal.symm

end StandsFor

theorem escapeChar_standsFor (character : Char) :
    StandsFor (escapeChar character) character := by
  unfold escapeChar
  by_cases mark : character = '&'
  · subst mark
    exact .entity (by decide)
  · by_cases opening : character = '<'
    · subst opening
      exact .entity (by decide)
    · by_cases closing : character = '>'
      · subst closing
        exact .entity (by decide)
      · simp only [beq_iff_eq, mark, opening, closing, if_false]
        exact .itself mark opening closing

theorem quoteChar_standsFor (character : Char) : StandsFor (quoteChar character) character := by
  unfold quoteChar
  by_cases double : character = '"'
  · subst double
    exact .entity (by decide)
  · by_cases single : character = '\''
    · subst single
      exact .entity (by decide)
    · simp only [beq_iff_eq, double, single, if_false]
      exact escapeChar_standsFor character

/-! ## Escaped texts -/

section Written

variable {write : Char → Text} (stands : ∀ character, StandsFor (write character) character)
include stands

theorem decode_flatMap (text rest : Text) :
    decode (text.flatMap write ++ rest) = text ++ decode rest := by
  induction text with
  | nil => rfl
  | cons character text induction =>
      rw [List.flatMap_cons, List.append_assoc, (stands character).decode_append, induction]
      rfl

theorem flatMap_eq_nil_iff {text : Text} : text.flatMap write = [] ↔ text = [] := by
  cases text with
  | nil => simp
  | cons character text => simp [(stands character).ne_nil]

theorem not_mem_opening_flatMap (text : Text) : '<' ∉ text.flatMap write := by
  intro member
  rcases List.mem_flatMap.mp member with ⟨character, _, member⟩
  exact (stands character).not_mem_opening member

theorem not_mem_closing_flatMap (text : Text) : '>' ∉ text.flatMap write := by
  intro member
  rcases List.mem_flatMap.mp member with ⟨character, _, member⟩
  exact (stands character).not_mem_closing member

theorem not_mem_newline_flatMap {text : Text} (whole : '\n' ∉ text) :
    '\n' ∉ text.flatMap write := by
  intro member
  rcases List.mem_flatMap.mp member with ⟨character, inside, member⟩
  exact whole ((stands character).eq_of_mem_newline member ▸ inside)

end Written

variable {text : Text}

@[simp] theorem decode_escape (text : Text) : decode (escape text) = text := by
  have decoded := decode_flatMap escapeChar_standsFor text []
  simpa [escape] using decoded

@[simp] theorem decode_quote (text : Text) : decode (quote text) = text := by
  have decoded := decode_flatMap quoteChar_standsFor text []
  simpa [quote] using decoded

@[simp] theorem escape_append (front rest : Text) :
    escape (front ++ rest) = escape front ++ escape rest :=
  List.flatMap_append

@[simp] theorem escape_eq_nil_iff : escape text = [] ↔ text = [] :=
  flatMap_eq_nil_iff escapeChar_standsFor

theorem not_mem_opening_quote (text : Text) : '<' ∉ quote text :=
  not_mem_opening_flatMap quoteChar_standsFor text

theorem not_mem_closing_quote (text : Text) : '>' ∉ quote text :=
  not_mem_closing_flatMap quoteChar_standsFor text

/-- A quote ends what stands between quotes, and no other character does. -/
theorem not_mem_mark_quote (text : Text) : '"' ∉ quote text := by
  intro member
  rcases List.mem_flatMap.mp member with ⟨character, _, member⟩
  rcases (quoteChar_standsFor character).mem member with letter | ⟨equal, _⟩
  · exact absurd letter (by decide)
  · subst equal
    exact absurd member (by decide)

theorem not_mem_newline_escape (whole : '\n' ∉ text) : '\n' ∉ escape text :=
  not_mem_newline_flatMap escapeChar_standsFor whole

end DumpLens.Markup
