import DumpLens.Markup.Splitter
import DumpLens.Proofs.Markup.Decoded

/-! Fragments of markup for single lines: runs of escaped text, each of them alone or in an
element of its own. -/

namespace DumpLens.Markup

variable {character : Char} {rest markup line tag : Text}

/-! ## Segments as they are written -/

namespace Segment

def text : Segment → Text
  | .tag text => text
  | .visible character => [character]

/-- Span tags, and characters that are no part of a tag. They are read back as they are
written. -/
inductive Sound : Segment → Prop
  | tag {start inside : Text} : start = "<span".toList ∨ start = "</span".toList →
      '<' ∉ inside → '>' ∉ inside → Sound (.tag (start ++ inside ++ ['>']))
  | visible {character : Char} : character ≠ '<' → character ≠ '>' → Sound (.visible character)

end Segment

def shownOf (parts : List Segment) : Text :=
  parts.filterMap fun
    | .visible character => some character
    | .tag _ => none

def tagsOf (parts : List Segment) : List Text :=
  parts.filterMap fun
    | .tag tag => some tag
    | .visible _ => none

@[simp] theorem shownOf_append (first second : List Segment) :
    shownOf (first ++ second) = shownOf first ++ shownOf second :=
  List.filterMap_append ..

@[simp] theorem tagsOf_append (first second : List Segment) :
    tagsOf (first ++ second) = tagsOf first ++ tagsOf second :=
  List.filterMap_append ..

@[simp] theorem shownOf_tag (tag : Text) (parts : List Segment) :
    shownOf (.tag tag :: parts) = shownOf parts := rfl

@[simp] theorem tagsOf_tag (tag : Text) (parts : List Segment) :
    tagsOf (.tag tag :: parts) = tag :: tagsOf parts := rfl

@[simp] theorem shownOf_visible (text : Text) : shownOf (text.map .visible) = text := by
  rw [shownOf, List.filterMap_map]
  exact List.filterMap_some

@[simp] theorem tagsOf_visible (text : Text) : tagsOf (text.map .visible) = [] := by
  rw [tagsOf, List.filterMap_map]
  exact List.filterMap_eq_nil_iff.mpr fun _ _ => rfl

@[simp] theorem text_visible (text : Text) :
    (text.map Segment.visible).flatMap Segment.text = text := by
  induction text with
  | nil => rfl
  | cons character text induction =>
      rw [List.map_cons, List.flatMap_cons, induction]
      rfl

/-! ## Reading back -/

theorem segments_of_tag (found : tagAt? markup = some (tag, rest)) :
    segments markup = .tag tag :: segments rest := by
  cases markup with
  | nil => simp [tagAt?] at found
  | cons character markup =>
      rw [segments]
      split
      · rename_i equal
        rw [found] at equal
        cases equal
        rfl
      · rename_i equal
        rw [found] at equal
        cases equal

theorem segments_of_no_tag (noTag : tagAt? (character :: rest) = none) :
    segments (character :: rest) = .visible character :: segments rest := by
  rw [segments]
  split
  · rename_i equal
    rw [noTag] at equal
    cases equal
  · rfl

/-- Only `<` starts a tag. -/
theorem segments_cons (other : character ≠ '<') (rest : Text) :
    segments (character :: rest) = .visible character :: segments rest := by
  apply segments_of_no_tag
  simp [tagAt?, Ne.symm other]

@[simp] theorem segments_nil : segments [] = [] := by
  rw [segments]

/-- A tag ends at the first `>`. -/
theorem tagAt?_append {start inside : Text}
    (isStart : start = "<span".toList ∨ start = "</span".toList) (noEnd : '>' ∉ inside)
    (rest : Text) :
    tagAt? (start ++ inside ++ '>' :: rest) = some (start ++ inside ++ ['>'], rest) := by
  have noEndBefore : '>' ∉ start ++ inside := by
    rw [List.mem_append, not_or]
    refine ⟨?_, noEnd⟩
    rcases isStart with rfl | rfl <;> decide
  have before : ∀ character ∈ start ++ inside, (character != '>') = true := by
    intro character member
    simpa using fun equal : character = '>' => noEndBefore (equal ▸ member)
  have starts : ("<span".toList.isPrefixOf (start ++ inside ++ '>' :: rest) ||
      "</span".toList.isPrefixOf (start ++ inside ++ '>' :: rest)) = true := by
    rcases isStart with rfl | rfl <;> simp
  rw [tagAt?, if_pos starts, List.dropWhile_append_of_pos before,
    List.takeWhile_append_of_pos before]
  simp

/-- Sound segments are read back as they are written. -/
theorem segments_text {parts : List Segment} (sound : ∀ part ∈ parts, part.Sound) :
    segments (parts.flatMap Segment.text) = parts := by
  induction parts with
  | nil => exact segments_nil
  | cons part parts induction =>
      have rest := induction fun part member => sound part (List.mem_cons_of_mem _ member)
      cases sound part List.mem_cons_self with
      | @tag start inside isStart _ noEnd =>
          rw [List.flatMap_cons, Segment.text, List.append_assoc _ ['>'], List.singleton_append,
            segments_of_tag (tagAt?_append isStart noEnd _), rest]
      | visible notOpening _ =>
          rw [List.flatMap_cons, Segment.text, List.singleton_append, segments_cons notOpening,
            rest]

/-! ## Nested tags -/

/-- Every element is closed, behind all elements inside of it. -/
inductive Nested : List Text → Prop
  | nil : Nested []
  | element {opening closing : Text} {inside rest : List Text} :
      isClosing opening = false → Nested inside → isClosing closing = true → Nested rest →
      Nested (opening :: inside ++ closing :: rest)

theorem Nested.append {first second : List Text} (firstNested : Nested first)
    (secondNested : Nested second) : Nested (first ++ second) := by
  induction firstNested with
  | nil => exact secondNested
  | element opens inside closes _ _ restNested =>
      rw [List.append_assoc]
      exact .element opens inside closes restNested

/-- Every element is closed before the next one opens. -/
inductive SideBySide : List Text → Prop
  | nil : SideBySide []
  | element {opening closing : Text} {rest : List Text} :
      isClosing opening = false → isClosing closing = true → SideBySide rest →
      SideBySide (opening :: closing :: rest)

theorem SideBySide.append {first second : List Text} (firstSide : SideBySide first)
    (secondSide : SideBySide second) : SideBySide (first ++ second) := by
  induction firstSide with
  | nil => exact secondSide
  | element opens closes _ induction => exact .element opens closes induction

theorem SideBySide.nested {tags : List Text} (sideBySide : SideBySide tags) : Nested tags := by
  induction sideBySide with
  | nil => exact .nil
  | element opens closes _ induction => exact .element opens .nil closes induction

/-- Nested tags leave no element open that was not open before. -/
theorem Nested.foldl_afterTag {tags : List Text} (nested : Nested tags) (stack : List Text) :
    tags.foldl afterTag stack = stack := by
  induction nested generalizing stack with
  | nil => rfl
  | element opens _ closes _ insideKept restKept =>
      simp [afterTag, opens, closes, insideKept, restKept]

/-! ## Elements -/

theorem not_mem_styleClass (kind : TokenKind) :
    '<' ∉ kind.styleClass ∧ '>' ∉ kind.styleClass := by
  cases kind <;> decide

theorem not_mem_newline_openTag (kind : TokenKind) : '\n' ∉ openTag kind.styleClass := by
  cases kind <;> decide

theorem not_mem_newline_close (tag : Text) : '\n' ∉ close tag := by
  unfold close
  split
  · exact List.not_mem_nil
  · decide

/-- A run of text in the element of its style class. Without a class there is no element. -/
def element (kind : TokenKind) (text : Text) : Text :=
  openTag kind.styleClass ++ escape text ++ close (openTag kind.styleClass)

def elementParts (kind : TokenKind) (text : Text) : List Segment :=
  if kind.styleClass.isEmpty then (escape text).map .visible
  else .tag (openTag kind.styleClass) :: (escape text).map .visible ++ [.tag closeTag]

theorem text_elementParts (kind : TokenKind) (text : Text) :
    (elementParts kind text).flatMap Segment.text = element kind text := by
  unfold elementParts element
  by_cases unnamed : kind.styleClass = []
  · simp [unnamed, openTag, close]
  · simp [unnamed, openTag, close, Segment.text]

theorem shownOf_elementParts (kind : TokenKind) (text : Text) :
    shownOf (elementParts kind text) = escape text := by
  unfold elementParts
  split
  · exact shownOf_visible _
  · simp
    rfl

theorem sideBySide_elementParts (kind : TokenKind) (text : Text) :
    SideBySide (tagsOf (elementParts kind text)) := by
  unfold elementParts
  split
  · rw [tagsOf_visible]
    exact .nil
  · rename_i named
    have opens : isClosing (openTag kind.styleClass) = false := by
      simp [isClosing, openTag, named]
      rfl
    simp only [List.cons_append, tagsOf_tag, tagsOf_append, tagsOf_visible]
    exact .element opens (by decide) .nil

/-- Escaped text has no part of a tag in it. -/
theorem sound_visible {write : Char → Text}
    (stands : ∀ character, StandsFor (write character) character) (text : Text) :
    ∀ part ∈ (text.flatMap write).map Segment.visible, part.Sound := by
  intro part member
  rcases List.mem_map.mp member with ⟨character, inside, rfl⟩
  refine .visible ?_ ?_
  · rintro rfl
    exact not_mem_opening_flatMap stands text inside
  · rintro rfl
    exact not_mem_closing_flatMap stands text inside

theorem sound_elementParts (kind : TokenKind) (text : Text) :
    ∀ part ∈ elementParts kind text, part.Sound := by
  have escaped := sound_visible escapeChar_standsFor text
  unfold elementParts
  split
  · exact escaped
  · rename_i named
    intro part member
    rcases List.mem_append.mp member with opens | closes
    · cases opens with
      | head =>
          have written : openTag kind.styleClass =
              "<span".toList ++ (" class=\"".toList ++ kind.styleClass ++ ['"']) ++ ['>'] := by
            simp [openTag, named]
          rcases not_mem_styleClass kind with ⟨noOpening, noClosing⟩
          rw [written]
          refine .tag (.inl rfl) ?_ ?_ <;>
            simp [noOpening, noClosing]
      | tail _ member => exact escaped part member
    · cases List.mem_singleton.mp closes
      exact Segment.Sound.tag (.inr rfl) List.not_mem_nil List.not_mem_nil

/-! ## Lines -/

/-- Markup for a line: its text in runs, each of them in its element. -/
inductive Renders : Text → Text → Prop
  | empty : Renders [] []
  | run {line markup text : Text} (kind : TokenKind) : Renders line markup → text ≠ [] →
      Renders (line ++ text) (markup ++ element kind text)

/-- Segments that show a line: its text is escaped and stands in nested span elements. -/
structure Shows (parts : List Segment) (line : Text) : Prop where
  sound : ∀ part ∈ parts, part.Sound
  nested : Nested (tagsOf parts)
  shown : shownOf parts = escape line

namespace Renders

theorem exists_shows (renders : Renders line markup) :
    ∃ parts, parts.flatMap Segment.text = markup ∧ Shows parts line := by
  induction renders with
  | empty => exact ⟨[], rfl, by simp, .nil, rfl⟩
  | @run line markup text kind _ _ induction =>
      rcases induction with ⟨parts, written, sound, nested, shown⟩
      refine ⟨parts ++ elementParts kind text, ?_, ?_, ?_, ?_⟩
      · rw [List.flatMap_append, written, text_elementParts]
      · exact List.forall_mem_append.mpr ⟨sound, sound_elementParts kind text⟩
      · rw [tagsOf_append]
        exact nested.append (sideBySide_elementParts kind text).nested
      · rw [shownOf_append, shown, shownOf_elementParts, escape_append]

/-- A fragment is read back as segments that show its line. -/
theorem shows (renders : Renders line markup) :
    (segments markup).flatMap Segment.text = markup ∧ Shows (segments markup) line := by
  rcases renders.exists_shows with ⟨parts, rfl, shows⟩
  rw [segments_text shows.sound]
  exact ⟨rfl, shows⟩

/-- What a fragment shows is its line, escaped. -/
theorem stripTags_eq (renders : Renders line markup) : stripTags markup = escape line :=
  renders.shows.2.shown

/-- The elements of a fragment are nested. -/
theorem nested_tags (renders : Renders line markup) : Nested (tags markup) :=
  renders.shows.2.nested

theorem eq_nil_iff (renders : Renders line markup) : markup = [] ↔ line = [] := by
  cases renders with
  | empty => exact Iff.rfl
  | run kind before some => simp [element, some]

theorem not_mem_newline (renders : Renders line markup) (whole : '\n' ∉ line) :
    '\n' ∉ markup := by
  induction renders with
  | empty => exact List.not_mem_nil
  | @run line markup text kind _ _ induction =>
      rw [List.mem_append, not_or] at whole ⊢
      refine ⟨induction whole.1, ?_⟩
      rw [element, List.mem_append, List.mem_append, not_or, not_or]
      exact ⟨⟨not_mem_newline_openTag kind, not_mem_newline_escape whole.2⟩,
        not_mem_newline_close _⟩

/-- A fragment stands on its own. -/
theorem splitLine_eq (renders : Renders line markup) : splitLine [] markup = (markup, []) := by
  simp [splitLine, renders.nested_tags.foldl_afterTag]

end Renders

end DumpLens.Markup
