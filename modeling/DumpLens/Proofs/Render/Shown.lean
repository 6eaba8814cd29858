import DumpLens.Proofs.Text.Indentation
import DumpLens.Render.Line
import Mathlib.Data.List.Forall2

/-! Lines of a text and the same lines as they are shown: without carriage returns at their
ends, and with compact indentation. -/

namespace DumpLens

variable {text line : Text}

/-! ## Line endings -/

/-- Every carriage return of a text has a newline right behind it. -/
def Text.ReturnsAtLineEnds (text : Text) : Prop :=
  ∀ place, text[place]? = some '\r' → text[place + 1]? = some '\n'

namespace Text

theorem normalizeEndings_append (plain : '\r' ∉ line) (rest : Text) :
    (line ++ rest).normalizeEndings = line ++ rest.normalizeEndings := by
  induction line with
  | nil => rfl
  | cons character line induction =>
      rw [List.mem_cons, not_or] at plain
      have notReturn : character ≠ '\r' := fun equal => plain.1 equal.symm
      simp [normalizeEndings, notReturn, induction plain.2]

end Text

/-! ## Lines -/

/-- A line of a text and the line that is shown for it. -/
inductive ShownAs : Text → Text → Prop
  | plain {line : Text} (whole : '\n' ∉ line) : ShownAs line (Indent.compact line)
  | returned {line : Text} (whole : '\n' ∉ line) : ShownAs (line ++ ['\r']) (Indent.compact line)

theorem displayText_line (whole : '\n' ∉ line) (plain : '\r' ∉ line) (rest : Text) :
    displayText (line ++ '\n' :: rest) = Indent.compact line ++ '\n' :: displayText rest := by
  have newline : Text.normalizeEndings ('\n' :: rest) = '\n' :: rest.normalizeEndings := rfl
  rw [displayText, Text.normalizeEndings_append plain, newline, Indent.compact,
    Indent.scan_append_newline whole]
  rfl

theorem displayText_returned (whole : '\n' ∉ line) (plain : '\r' ∉ line) (rest : Text) :
    displayText (line ++ ['\r'] ++ '\n' :: rest) =
      Indent.compact line ++ '\n' :: displayText rest := by
  have ending : Text.normalizeEndings ('\r' :: '\n' :: rest) = '\n' :: rest.normalizeEndings := rfl
  have parts : line ++ ['\r'] ++ '\n' :: rest = line ++ '\r' :: '\n' :: rest := by simp
  rw [parts, displayText, Text.normalizeEndings_append plain, ending, Indent.compact,
    Indent.scan_append_newline whole]
  rfl

theorem Text.ReturnsAtLineEnds.of_append {front rest : Text}
    (endings : (front ++ rest).ReturnsAtLineEnds) : rest.ReturnsAtLineEnds := by
  intro place isReturn
  have shifted (place : Nat) : (front ++ rest)[front.length + place]? = rest[place]? := by
    rw [List.getElem?_append_right (Nat.le_add_right ..), Nat.add_sub_cancel_left]
  have next := endings (front.length + place) (by rw [shifted, isReturn])
  rwa [Nat.add_assoc, shifted] at next

/-- A line has a carriage return only at its end. -/
theorem Text.ReturnsAtLineEnds.line_cases {rest : Text} (whole : '\n' ∉ line)
    (endings : (line ++ '\n' :: rest).ReturnsAtLineEnds) :
    '\r' ∉ line ∨ ∃ front, line = front ++ ['\r'] ∧ '\r' ∉ front := by
  by_cases returned : '\r' ∈ line
  · rcases List.eq_append_cons_of_mem returned with ⟨front, behind, rfl, plain⟩
    cases behind with
    | nil => exact .inr ⟨front, rfl, plain⟩
    | cons next behind =>
        have parts : front ++ '\r' :: next :: behind ++ '\n' :: rest =
            front ++ '\r' :: next :: (behind ++ '\n' :: rest) := by
          simp
        rw [parts] at endings
        have isNewline := endings.of_append 0 rfl
        cases isNewline
        exact absurd (by simp) whole
  · exact .inl returned

/-- Showing a text brings in nothing but newlines and spaces. -/
theorem not_mem_lines_displayText {character : Char} (absent : character ∉ text)
    (notNewline : character ≠ '\n') (notSpace : character ≠ ' ') :
    ∀ line ∈ (displayText text).lines, character ∉ line := by
  intro line isLine inLine
  have inShown := Text.mem_of_mem_lines isLine inLine
  have inText := Indent.mem_of_mem_scan inShown notSpace
  exact absent (Text.mem_of_mem_normalizeEndings notNewline inText)

/-- Where carriage returns are only parts of line endings, lines are shown one by one. -/
theorem shownAs_lines (endings : text.ReturnsAtLineEnds) :
    List.Forall₂ ShownAs text.lines (displayText text).lines := by
  induction text using Text.lineInduction with
  | last line whole =>
      have plain : '\r' ∉ line := by
        intro member
        rcases List.mem_iff_getElem?.mp member with ⟨place, isReturn⟩
        exact whole (List.mem_of_getElem? (endings place isReturn))
      rw [displayText, Text.normalizeEndings_of_not_mem plain, Text.lines_of_not_mem whole,
        Text.lines_of_not_mem (Indent.not_mem_compact whole)]
      exact .cons (.plain whole) .nil
  | more line rest whole induction =>
      have parts : line ++ '\n' :: rest = line ++ ['\n'] ++ rest := by simp
      have others := induction (parts ▸ endings).of_append
      rw [Text.lines_append_newline whole]
      rcases endings.line_cases whole with plain | ⟨front, rfl, plain⟩
      · rw [displayText_line whole plain,
          Text.lines_append_newline (Indent.not_mem_compact whole)]
        exact .cons (.plain whole) others
      · have frontWhole : '\n' ∉ front := fun member => whole (by simp [member])
        rw [displayText_returned frontWhole plain,
          Text.lines_append_newline (Indent.not_mem_compact frontWhole)]
        exact .cons (.returned frontWhole) others

end DumpLens
