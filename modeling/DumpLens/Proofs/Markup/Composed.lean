import DumpLens.Proofs.Markup.Fragment
import Mathlib.Data.List.Infix

/-! Markup taken apart from the front. Where every span tag that begins on a line ends on it,
the line is composed of tags and of characters at which none begins, and it is read in the
same way whatever stands behind it. -/

namespace DumpLens.Markup

variable {markup line rest tag : Text}

/-! ## Tags as they are written -/

/-- A text begins as span tags do. -/
def StartsTag (input : Text) : Prop :=
  "<span".toList <+: input ∨ "</span".toList <+: input

instance (input : Text) : Decidable (StartsTag input) :=
  inferInstanceAs (Decidable (_ ∨ _))

/-- A span tag: it ends at its first `>`. -/
def IsTag (tag : Text) : Prop :=
  ∃ inside, StartsTag inside ∧ '>' ∉ inside ∧ tag = inside ++ ['>']

/-- Every span tag that begins in a text ends in it. -/
def TagsEnd (line : Text) : Prop :=
  ∀ rest, rest <:+ line → StartsTag rest → '>' ∈ rest

instance (line : Text) : Decidable (TagsEnd line) :=
  decidable_of_iff (∀ rest ∈ line.tails, StartsTag rest → '>' ∈ rest)
    (forall_congr' fun rest => by rw [List.mem_tails])

/-- Where a tag begins and a `>` follows, there is a tag. -/
theorem StartsTag.exists_isTag (starts : StartsTag markup) (ends : '>' ∈ markup) :
    ∃ tag rest, IsTag tag ∧ markup = tag ++ rest := by
  rcases List.eq_append_cons_of_mem ends with ⟨inside, rest, rfl, noEnd⟩
  refine ⟨inside ++ ['>'], rest, ⟨inside, ?_, noEnd, rfl⟩, by simp⟩
  -- What a tag begins with has no `>` in it, so it stands in front of the first one.
  have inFront {start : Text} (isPrefix : start <+: inside ++ '>' :: rest)
      (noMark : '>' ∉ start) : start <+: inside := by
    rcases isPrefix with ⟨behind, equal⟩
    rcases List.append_eq_append_iff.mp equal with ⟨more, short, _⟩ | ⟨more, rfl, following⟩
    · exact ⟨more, short.symm⟩
    · cases more with
      | nil => simp
      | cons mark more =>
          cases following
          simp at noMark
  rcases starts with opening | closing
  · exact .inl (inFront opening (by decide))
  · exact .inr (inFront closing (by decide))

theorem segments_isTag_append (isTag : IsTag tag) (rest : Text) :
    segments (tag ++ rest) = .tag tag :: segments rest := by
  apply segments_of_tag
  rcases isTag with ⟨_, ⟨inside, rfl⟩ | ⟨inside, rfl⟩, noEnd, rfl⟩
  · rw [List.append_assoc, List.singleton_append]
    exact tagAt?_append (.inl rfl) (mt (List.mem_append_right _) noEnd) rest
  · rw [List.append_assoc, List.singleton_append]
    exact tagAt?_append (.inr rfl) (mt (List.mem_append_right _) noEnd) rest

/-- A character at which no tag begins is shown. -/
theorem segments_cons_of_not_startsTag {character : Char}
    (noStart : ¬ StartsTag (character :: rest)) :
    segments (character :: rest) = .visible character :: segments rest := by
  refine segments_of_no_tag (if_neg ?_)
  rw [Bool.or_eq_true, List.isPrefixOf_iff_prefix, List.isPrefixOf_iff_prefix]
  exact noStart

theorem TagsEnd.of_suffix (ends : TagsEnd line) (isSuffix : rest <:+ line) : TagsEnd rest :=
  fun later inRest => ends later (inRest.trans isSuffix)

/-- A text is composed of span tags, and of characters at which none begins. -/
inductive Composed : Text → Prop
  | nil : Composed []
  | tag {tag rest : Text} : IsTag tag → Composed rest → Composed (tag ++ rest)
  | visible {character : Char} {rest : Text} : ¬ StartsTag (character :: rest) →
      Composed rest → Composed (character :: rest)

theorem TagsEnd.composed {line : Text} (ends : TagsEnd line) : Composed line :=
  match line, ends with
  | [], _ => .nil
  | character :: rest, ends => by
      by_cases starts : StartsTag (character :: rest)
      · rcases starts.exists_isTag (ends _ List.suffix_rfl starts) with ⟨tag, later, isTag, equal⟩
        have laterEnds : TagsEnd later := ends.of_suffix (equal ▸ List.suffix_append tag later)
        have shorter : later.length < (character :: rest).length := by
          rcases isTag with ⟨inside, _, _, isEnd⟩
          rw [equal, isEnd, List.length_append, List.length_append, List.length_singleton]
          omega
        rw [equal]
        exact .tag isTag laterEnds.composed
      · have restEnds : TagsEnd rest := ends.of_suffix (List.suffix_cons character rest)
        exact .visible starts restEnds.composed
termination_by line.length
decreasing_by
  · exact shorter
  · exact Nat.lt_succ_self rest.length

/-- Sound segments are written as composed text. -/
theorem composed_of_sound {parts : List Segment} (sound : ∀ part ∈ parts, part.Sound) :
    Composed (parts.flatMap Segment.text) := by
  induction parts with
  | nil => exact .nil
  | cons part parts induction =>
      have rest := induction fun other member => sound other (List.mem_cons_of_mem part member)
      rw [List.flatMap_cons]
      cases sound part List.mem_cons_self with
      | @tag start inside isStart _ noEnd =>
          refine .tag ⟨start ++ inside, ?_, ?_, rfl⟩ rest
          · rcases isStart with rfl | rfl
            · exact .inl (List.prefix_append _ inside)
            · exact .inr (List.prefix_append _ inside)
          · rw [List.mem_append, not_or]
            refine ⟨?_, noEnd⟩
            rcases isStart with rfl | rfl <;> decide
      | @visible character notOpening _ =>
          refine .visible ?_ rest
          rintro (opening | closing)
          · exact notOpening (List.cons_prefix_cons.mp opening).1.symm
          · exact notOpening (List.cons_prefix_cons.mp closing).1.symm

/-! ## Segments of lines -/

/-- A text that does not go on where a tag has only just begun. -/
def Joins (rest : Text) : Prop :=
  ∀ character, rest.head? = some character → character ∉ "/span".toList

theorem StartsTag.of_append (joins : Joins rest) (some : line ≠ [])
    (starts : StartsTag (line ++ rest)) : StartsTag line := by
  -- What begins in the line and goes on behind it goes on with a letter of `/span`.
  have within {start : Text} (isPrefix : start <+: line ++ rest)
      (letters : start.tail ⊆ "/span".toList) : start <+: line := by
    rcases isPrefix with ⟨behind, equal⟩
    rcases List.append_eq_append_iff.mp equal with ⟨more, short, _⟩ | ⟨more, rfl, rfl⟩
    · exact ⟨more, short.symm⟩
    · cases more with
      | nil => simp
      | cons character more =>
          have inTail : character ∈ (line ++ character :: more).tail := by
            simp [List.tail_append_of_ne_nil some]
          exact absurd (letters inTail) (joins character rfl)
  rcases starts with opening | closing
  · exact .inl (within opening (by simp))
  · exact .inr (within closing (by simp))

/-- What joins a composed text is read on its own. -/
theorem segments_append (composed : Composed line) (joins : Joins rest) :
    segments (line ++ rest) = segments line ++ segments rest := by
  induction composed with
  | nil => rw [List.nil_append, segments_nil, List.nil_append]
  | tag isTag _ induction =>
      rw [List.append_assoc, segments_isTag_append isTag, segments_isTag_append isTag, induction,
        List.cons_append]
  | visible noStart _ induction =>
      have stillNone := mt (StartsTag.of_append joins (List.cons_ne_nil _ _)) noStart
      rw [List.cons_append] at stillNone
      rw [List.cons_append, segments_cons_of_not_startsTag stillNone,
        segments_cons_of_not_startsTag noStart, induction, List.cons_append]

theorem segments_flatten {tags : List Text} (areTags : ∀ tag ∈ tags, IsTag tag) (rest : Text) :
    segments (tags.flatten ++ rest) = tags.map .tag ++ segments rest := by
  induction tags with
  | nil => rfl
  | cons tag tags induction =>
      rw [List.flatten_cons, List.append_assoc,
        segments_isTag_append (areTags tag List.mem_cons_self),
        induction fun other member => areTags other (List.mem_cons_of_mem tag member)]
      rfl

theorem joins_nil : Joins [] := by
  intro character impossible
  cases impossible

theorem joins_newline (rest : Text) : Joins ('\n' :: rest) := by
  intro character equal
  cases equal
  decide

/-- A line is read on its own, and so is what comes behind it. -/
theorem segments_line (composed : Composed line) (rest : Text) :
    segments (line ++ '\n' :: rest) = segments line ++ .visible '\n' :: segments rest := by
  rw [segments_append composed (joins_newline rest), segments_cons (by decide)]

/-- Segments are span tags and characters of the text. -/
theorem mem_of_mem_segments (composed : Composed line) :
    ∀ part ∈ segments line, (∃ tag, part = .tag tag ∧ IsTag tag) ∨
      ∃ character ∈ line, part = .visible character := by
  induction composed with
  | nil => simp
  | @tag tag rest isTag _ induction =>
      intro part member
      rw [segments_isTag_append isTag] at member
      rcases List.mem_cons.mp member with rfl | member
      · exact .inl ⟨tag, rfl, isTag⟩
      · rcases induction part member with isTag | ⟨character, inRest, equal⟩
        · exact .inl isTag
        · exact .inr ⟨character, List.mem_append_right _ inRest, equal⟩
  | @visible character rest noStart _ induction =>
      intro part member
      rw [segments_cons_of_not_startsTag noStart] at member
      rcases List.mem_cons.mp member with rfl | member
      · exact .inr ⟨character, List.mem_cons_self, rfl⟩
      · rcases induction part member with isTag | ⟨other, inRest, equal⟩
        · exact .inl isTag
        · exact .inr ⟨other, List.mem_cons_of_mem _ inRest, equal⟩

end DumpLens.Markup
