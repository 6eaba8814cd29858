import DumpLens.Proofs.Markup.Composed
import DumpLens.Proofs.Markup.Written

/-! Highlighting keeps the text. The markup without its tags is the escaped text, line by
line, and no element on a line holds another one or reaches over its end. -/

namespace DumpLens.Markup

variable {line markup text : Text} {lines markups : List Text}

namespace Renders

/-- A run of text is read back behind the fragment that it extends. -/
theorem segments_run (renders : Renders line markup) (kind : TokenKind) (text : Text) :
    segments (markup ++ element kind text) = segments markup ++ elementParts kind text := by
  rcases renders.shows with ⟨written, sound, _, _⟩
  have both : (segments markup ++ elementParts kind text).flatMap Segment.text =
      markup ++ element kind text := by
    rw [List.flatMap_append, written, text_elementParts]
  rw [← both]
  exact segments_text (List.forall_mem_append.mpr ⟨sound, sound_elementParts kind text⟩)

theorem sideBySide_tags (renders : Renders line markup) : SideBySide (tags markup) := by
  induction renders with
  | empty => rw [tags, segments_nil]; exact .nil
  | @run line markup text kind before _ induction =>
      show SideBySide (tagsOf (segments _))
      rw [before.segments_run, tagsOf_append]
      exact induction.append (sideBySide_elementParts kind text)

theorem composed (renders : Renders line markup) : Composed markup := by
  rcases renders.shows with ⟨written, shows⟩
  exact written ▸ composed_of_sound shows.sound

end Renders

/-- What fragments of lines show together is the text of the lines, escaped. -/
theorem stripTags_unlines (renders : List.Forall₂ Renders lines markups) :
    stripTags (Text.unlines markups) = escape (Text.unlines lines) := by
  induction renders with
  | nil => exact congrArg shownOf segments_nil
  | @cons line markup lines markups first rest induction =>
      by_cases last : lines = []
      · subst last
        cases rest
        simpa [Text.unlines] using first.stripTags_eq
      · have more : markups ≠ [] := by
          rintro rfl
          exact last (List.forall₂_nil_right_iff.mp rest)
        rw [Text.unlines_cons markup more, Text.unlines_cons line last, escape_append]
        show shownOf (segments _) = _
        rw [segments_line first.composed, shownOf_append]
        exact congrArg₂ (· ++ '\n' :: ·) first.stripTags_eq induction

/-- Highlighting keeps the text but for a byte order mark at its start, whether or not it
ends in a newline, and its elements stand side by side on single lines. -/
theorem highlight_keepsText (plain : '\r' ∉ text) (language : Language) :
    decode (stripTags (highlight text language)) = dropMark text ∧
      (highlight text language).count '\n' = text.count '\n' ∧
      (∀ line ∈ (highlight text language).lines, SideBySide (tags line)) ∧
      splitLines (highlight text language) = (highlight text language).lines := by
  have renders := lines_highlight plain language
  refine ⟨?_, ?_, ?_, splitLinesFrom_eq renders⟩
  · have shown := stripTags_unlines renders
    rw [Text.unlines_lines, Text.unlines_lines] at shown
    rw [shown, decode_escape]
  · have sameLength := renders.length_eq
    rw [length_lines_dropMark, Text.length_lines, Text.length_lines] at sameLength
    omega
  · intro line member
    rcases exists_partner renders member with ⟨_, _, shown⟩
    exact shown.sideBySide_tags

/-- A byte order mark, a string over three lines that looks like markup, and a newline at the
end. -/
def multilineString : Text :=
  "\ufefflet x = \"a</span>\n\n&lt;<span>\"; // b\n".toList

theorem highlight_keepsText_multilineString :
    '\r' ∉ multilineString ∧
      decode (stripTags (highlight multilineString .dump)) = multilineString.tail ∧
      (highlight multilineString .dump).count '\n' = 3 ∧
      (∀ line ∈ (highlight multilineString .dump).lines, SideBySide (tags line)) ∧
      splitLines (highlight multilineString .dump) = (highlight multilineString .dump).lines := by
  have plain : '\r' ∉ multilineString := by decide
  have marked : dropMark multilineString = multilineString.tail := by decide
  have count : multilineString.count '\n' = 3 := by decide
  rcases highlight_keepsText plain .dump with ⟨kept, counted, sideBySide, split⟩
  exact ⟨plain, kept.trans marked, counted.trans count, sideBySide, split⟩

end DumpLens.Markup
