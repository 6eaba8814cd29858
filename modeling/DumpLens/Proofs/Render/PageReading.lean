import DumpLens.Proofs.Markup.Fragment
import DumpLens.Render.Page
import Mathlib.Data.List.DropRight

/-! Pages read as tags and characters that are shown, and tags read as attributes. A style
sheet is no part of what a page shows. -/

namespace DumpLens.Page

open Markup (Segment)

variable {character : Char} {rest inside sheet label value : Text}

/-! ## Tags -/

/-- Reads a tag at the front of a text: `<`, and all up to the next `>`. The result is the
tag and what follows it. -/
def tagAt? : Text → Option (Text × Text)
  | '<' :: input =>
    match input.dropWhile (· != '>') with
    | mark :: rest => some ('<' :: input.takeWhile (· != '>') ++ [mark], rest)
    | [] => none
  | _ => none

theorem tagAt?_length {input tag : Text} (found : tagAt? input = some (tag, rest)) :
    rest.length < input.length := by
  unfold tagAt? at found
  split at found
  · rename_i input
    split at found
    · rename_i equal
      have shorter := (List.dropWhile_suffix (l := input) (· != '>')).length_le
      cases found
      rw [equal] at shorter
      simp only [List.length_cons] at shorter ⊢
      omega
    · cases found
  · cases found

theorem tagAt?_eq_none (other : character ≠ '<') (rest : Text) :
    tagAt? (character :: rest) = none := by
  unfold tagAt?
  split
  · rename_i equal
    exact absurd (List.cons.inj equal).1 other
  · rfl

/-- A tag ends at the first `>`. -/
theorem tagAt?_append (noEnd : '>' ∉ inside) (rest : Text) :
    tagAt? ('<' :: inside ++ '>' :: rest) = some ('<' :: inside ++ ['>'], rest) := by
  have before : ∀ character ∈ inside, (character != '>') = true := by
    intro character member
    simpa using fun equal : character = '>' => noEnd (equal ▸ member)
  rw [List.cons_append, tagAt?, List.dropWhile_append_of_pos before,
    List.takeWhile_append_of_pos before]
  simp

/-! ## Style sheets -/

def sheetTag : Text := "<style>".toList

def sheetEnd : Text := "</style>".toList

/-- Drops a style sheet. What is left starts with the tag behind it. -/
def skipSheet : Text → Text
  | [] => []
  | character :: rest =>
    if sheetEnd.isPrefixOf (character :: rest) then character :: rest else skipSheet rest

theorem length_skipSheet_le (input : Text) : (skipSheet input).length ≤ input.length := by
  induction input with
  | nil => exact Nat.le_refl _
  | cons character rest induction =>
      unfold skipSheet
      split
      · exact Nat.le_refl _
      · exact Nat.le_succ_of_le induction

theorem skipSheet_of_isPrefixOf {input : Text} (isEnd : sheetEnd.isPrefixOf input = true) :
    skipSheet input = input := by
  cases input with
  | nil => rfl
  | cons character rest => rw [skipSheet, if_pos isEnd]

theorem skipSheet_cons (other : character ≠ '<') (rest : Text) :
    skipSheet (character :: rest) = skipSheet rest := by
  rw [skipSheet, if_neg]
  intro isEnd
  exact other (List.cons_prefix_cons.mp (List.isPrefixOf_iff_prefix.mp isEnd)).1.symm

theorem skipSheet_append (noTag : '<' ∉ sheet) (rest : Text) :
    skipSheet (sheet ++ (sheetEnd ++ rest)) = sheetEnd ++ rest := by
  induction sheet with
  | nil => exact skipSheet_of_isPrefixOf (List.isPrefixOf_iff_prefix.mpr (List.prefix_append _ _))
  | cons character sheet induction =>
      rw [List.mem_cons, not_or] at noTag
      rw [List.cons_append, skipSheet_cons (Ne.symm noTag.1), induction noTag.2]

def behindTag (tag rest : Text) : Text :=
  if tag = sheetTag then skipSheet rest else rest

theorem length_behindTag_le (tag rest : Text) : (behindTag tag rest).length ≤ rest.length := by
  unfold behindTag
  split
  · exact length_skipSheet_le rest
  · exact Nat.le_refl _

/-! ## Segments -/

/-- The tags and the other characters of a page, but for its style sheets. -/
def segments (page : Text) : List Segment :=
  match page with
  | [] => []
  | character :: rest =>
    match _found : tagAt? (character :: rest) with
    | some (tag, following) => .tag tag :: segments (behindTag tag following)
    | none => .visible character :: segments rest
termination_by page.length
decreasing_by
  · exact Nat.lt_of_le_of_lt (length_behindTag_le _ _) (tagAt?_length _found)
  · simp

@[simp] theorem segments_nil : segments [] = [] := by
  rw [segments]

theorem segments_cons (other : character ≠ '<') (rest : Text) :
    segments (character :: rest) = .visible character :: segments rest := by
  rw [segments]
  split
  · rename_i equal
    rw [tagAt?_eq_none other] at equal
    cases equal
  · rfl

theorem segments_tag (noEnd : '>' ∉ inside) (rest : Text) :
    segments ('<' :: inside ++ '>' :: rest) =
      .tag ('<' :: inside ++ ['>']) :: segments (behindTag ('<' :: inside ++ ['>']) rest) := by
  have isTag := tagAt?_append noEnd rest
  rw [List.cons_append] at isTag ⊢
  rw [segments]
  split
  · rename_i equal
    rw [isTag] at equal
    cases equal
    rfl
  · rename_i equal
    rw [isTag] at equal
    cases equal

/-- A tag with no other `<` or `>` in it, or a character that is neither. -/
def IsWhole : Segment → Prop
  | .tag tag =>
    tag = '<' :: tag.tail.dropLast ++ ['>'] ∧ '<' ∉ tag.tail.dropLast ∧ '>' ∉ tag.tail.dropLast
  | .visible character => character ≠ '<' ∧ character ≠ '>'

instance : DecidablePred IsWhole
  | .tag _ => inferInstanceAs (Decidable (_ ∧ _ ∧ _))
  | .visible _ => inferInstanceAs (Decidable (_ ∧ _))

theorem isWhole_tag (noStart : '<' ∉ inside) (noEnd : '>' ∉ inside) :
    IsWhole (.tag ('<' :: inside ++ ['>'])) := by
  simp [IsWhole, noStart, noEnd]

theorem isWhole_visible {text : Text} (noStart : '<' ∉ text) (noEnd : '>' ∉ text) :
    ∀ part ∈ text.map Segment.visible, IsWhole part := by
  intro part member
  rcases List.mem_map.mp member with ⟨character, inside, rfl⟩
  refine ⟨?_, ?_⟩
  · rintro rfl
    exact noStart inside
  · rintro rfl
    exact noEnd inside

/-- Segments that are whole, with no style sheet among them. -/
structure Inert (parts : List Segment) : Prop where
  whole : ∀ part ∈ parts, IsWhole part
  noSheet : .tag sheetTag ∉ parts

theorem Inert.append {first second : List Segment} (firstInert : Inert first)
    (secondInert : Inert second) : Inert (first ++ second) := by
  refine ⟨?_, ?_⟩
  · intro part member
    rcases List.mem_append.mp member with member | member
    · exact firstInert.whole part member
    · exact secondInert.whole part member
  · rw [List.mem_append, not_or]
    exact ⟨firstInert.noSheet, secondInert.noSheet⟩

theorem inert_visible {text : Text} (noStart : '<' ∉ text) (noEnd : '>' ∉ text) :
    Inert (text.map Segment.visible) := by
  refine ⟨isWhole_visible noStart noEnd, ?_⟩
  intro member
  rcases List.mem_map.mp member with ⟨_, _, impossible⟩
  cases impossible

/-- Inert segments are read back as they are written. -/
theorem segments_append {parts : List Segment} (inert : Inert parts) (rest : Text) :
    segments (parts.flatMap Segment.text ++ rest) = parts ++ segments rest := by
  rcases inert with ⟨whole, noSheet⟩
  induction parts with
  | nil => rfl
  | cons part parts induction =>
      rw [List.mem_cons, not_or] at noSheet
      have others := induction (fun part member => whole part (List.mem_cons_of_mem _ member))
        noSheet.2
      have first := whole part List.mem_cons_self
      rw [List.flatMap_cons, List.append_assoc]
      cases part with
      | visible character =>
          rw [Segment.text, List.singleton_append, segments_cons first.1, others]
          rfl
      | tag tag =>
          rcases first with ⟨isTag, _, noEnd⟩
          have notSheet : tag ≠ sheetTag := fun equal => noSheet.1 (equal ▸ rfl)
          have read := segments_tag noEnd (parts.flatMap Segment.text ++ rest)
          rw [← isTag, behindTag, if_neg notSheet, others] at read
          rw [Segment.text, isTag, List.append_assoc, List.singleton_append, read, ← isTag]
          rfl

/-- Of a style sheet, its tags are left. -/
theorem segments_sheet (noTag : '<' ∉ sheet) (rest : Text) :
    segments (sheetTag ++ (sheet ++ (sheetEnd ++ rest))) =
      .tag sheetTag :: .tag sheetEnd :: segments rest := by
  have opened : segments (sheetTag ++ (sheet ++ (sheetEnd ++ rest))) =
      .tag sheetTag :: segments (skipSheet (sheet ++ (sheetEnd ++ rest))) :=
    @segments_tag "style".toList (by decide) _
  have closed : segments (sheetEnd ++ rest) = .tag sheetEnd :: segments rest :=
    @segments_tag "/style".toList (by decide) _
  rw [opened, skipSheet_append noTag, closed]

/-! ## Attributes -/

/-- A name with a quoted value. -/
def fieldText (field : Text × Text) : Text :=
  ' ' :: field.1 ++ '=' :: '"' :: field.2 ++ ['"']

def tagText (name : Text) (listed : List (Text × Text)) : Text :=
  '<' :: (name ++ listed.flatMap fieldText) ++ ['>']

/-- The name in front of the mark that an attribute's value follows. -/
def nameOf (label : Text) : Text :=
  label.dropLast.rtakeWhile (· != ' ')

/-- Pairs names with the values that stand in quotes behind them. -/
def pairAttributes : List Text → List (Text × Text)
  | label :: value :: rest => (nameOf label, value) :: pairAttributes rest
  | _ => []

/-- The attributes of a tag, in order, with their values as written. -/
def attributes (tag : Text) : List (Text × Text) :=
  pairAttributes (tag.splitOn '"')

theorem attributes_of_not_mem (plain : '"' ∉ rest) : attributes rest = [] := by
  rw [attributes, List.splitOn_eq_singleton plain]
  rfl

theorem attributes_cons (plainLabel : '"' ∉ label) (plainValue : '"' ∉ value) (rest : Text) :
    attributes (label ++ '"' :: (value ++ '"' :: rest)) =
      (nameOf label, value) :: attributes rest := by
  rw [attributes, List.splitOn_append_cons_self_of_not_mem plainLabel,
    List.splitOn_append_cons_self_of_not_mem plainValue]
  rfl

theorem nameOf_append {name : Text} (noSpace : ' ' ∉ name) (front : Text) :
    nameOf (front ++ ' ' :: name ++ ['=']) = name := by
  have before : ∀ character ∈ name.reverse, (character != ' ') = true := by
    intro character member
    simpa using fun equal : character = ' ' => noSpace (equal ▸ List.mem_reverse.mp member)
  rw [nameOf, List.dropLast_concat, List.rtakeWhile, List.reverse_append, List.reverse_cons,
    List.append_assoc, List.takeWhile_append_of_pos before]
  simp

/-- Text without the marks that tags and values end at. -/
def IsPlain (text : Text) : Prop :=
  '<' ∉ text ∧ '>' ∉ text ∧ '"' ∉ text

instance : DecidablePred IsPlain :=
  fun _ => inferInstanceAs (Decidable (_ ∧ _ ∧ _))

theorem IsPlain.append {first second : Text} (firstPlain : IsPlain first)
    (secondPlain : IsPlain second) : IsPlain (first ++ second) := by
  rcases firstPlain with ⟨noStart, noEnd, noQuote⟩
  rcases secondPlain with ⟨noStart', noEnd', noQuote'⟩
  simp [IsPlain, noStart, noEnd, noQuote, noStart', noEnd', noQuote']

/-- An attribute of plain text, with no space in its name. -/
structure IsField (field : Text × Text) : Prop where
  noSpace : ' ' ∉ field.1
  plainName : IsPlain field.1
  plainValue : IsPlain field.2

theorem isField {name value : Text} (plainName : ' ' ∉ name ∧ IsPlain name)
    (plainValue : IsPlain value) : IsField (name, value) :=
  ⟨plainName.1, plainName.2, plainValue⟩

theorem attributes_append {front : Text} {listed : List (Text × Text)} (plainFront : '"' ∉ front)
    (fields : ∀ field ∈ listed, IsField field) :
    attributes (front ++ (listed.flatMap fieldText ++ ['>'])) = listed := by
  induction listed generalizing front with
  | nil => exact attributes_of_not_mem (by simp [plainFront])
  | cons field listed induction =>
      rcases fields field List.mem_cons_self with ⟨noSpace, ⟨_, _, noQuote⟩, _, _, plainValue⟩
      have others := @induction [] List.not_mem_nil fun field member =>
        fields field (List.mem_cons_of_mem _ member)
      have plainLabel : '"' ∉ front ++ ' ' :: field.1 ++ ['='] := by
        simp [plainFront, noQuote]
      have written : front ++ ((field :: listed).flatMap fieldText ++ ['>']) =
          front ++ ' ' :: field.1 ++ ['='] ++
            '"' :: (field.2 ++ '"' :: ([] ++ (listed.flatMap fieldText ++ ['>']))) := by
        simp [fieldText]
      rw [written, attributes_cons plainLabel plainValue, nameOf_append noSpace, others]

/-- Attributes are read back as they are written. -/
theorem attributes_tagText {name : Text} {listed : List (Text × Text)} (plainName : IsPlain name)
    (fields : ∀ field ∈ listed, IsField field) : attributes (tagText name listed) = listed := by
  have plainFront : '"' ∉ '<' :: name := by
    simp [plainName.2.2]
  rw [tagText, ← List.cons_append, List.append_assoc]
  exact attributes_append plainFront fields

theorem isWhole_tagText {name : Text} {listed : List (Text × Text)} (plainName : IsPlain name)
    (fields : ∀ field ∈ listed, IsField field) : IsWhole (.tag (tagText name listed)) := by
  refine isWhole_tag ?_ ?_ <;>
    rw [List.mem_append, List.mem_flatMap, not_or]
  · refine ⟨plainName.1, ?_⟩
    rintro ⟨field, member, inside⟩
    rcases fields field member with ⟨_, ⟨nameWhole, _⟩, valueWhole, _⟩
    simp [fieldText, nameWhole, valueWhole] at inside
  · refine ⟨plainName.2.1, ?_⟩
    rintro ⟨field, member, inside⟩
    rcases fields field member with ⟨_, ⟨_, nameWhole, _⟩, _, valueWhole, _⟩
    simp [fieldText, nameWhole, valueWhole] at inside

end DumpLens.Page
