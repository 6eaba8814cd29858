import DumpLens.Text.Basic

/-! Lines of a text as it is built up, and texts whose only line endings are newlines. -/

namespace DumpLens.Text

variable {text rest line : Text}

/-! ## Lines -/

@[simp] theorem lines_ne_nil (text : Text) : text.lines ≠ [] :=
  List.splitOn_ne_nil _ _

@[simp] theorem unlines_lines (text : Text) : unlines text.lines = text :=
  List.intercalate_splitOn _

theorem lines_unlines {parts : List Text} (more : parts ≠ [])
    (whole : ∀ line ∈ parts, '\n' ∉ line) :
    (unlines parts).lines = parts :=
  List.splitOn_intercalate _ whole more

theorem unlines_cons (line : Text) {parts : List Text} (more : parts ≠ []) :
    unlines (line :: parts) = line ++ '\n' :: unlines parts := by
  rw [unlines, List.intercalate_cons_of_ne_nil more, List.append_assoc]
  rfl

theorem not_mem_unlines {parts : List Text} {character : Char}
    (notNewline : character ≠ '\n')
    (absent : ∀ line ∈ parts, character ∉ line) : character ∉ unlines parts := by
  induction parts with
  | nil => exact List.not_mem_nil
  | cons line parts induction =>
      have others := induction fun line member => absent line (List.mem_cons_of_mem _ member)
      by_cases last : parts = []
      · simpa [last, unlines] using absent line List.mem_cons_self
      · rw [unlines_cons _ last, List.mem_append, List.mem_cons, not_or, not_or]
        exact ⟨absent line List.mem_cons_self, notNewline, others⟩

/-- A text without newlines is a single line. -/
theorem lines_of_not_mem (whole : '\n' ∉ text) : text.lines = [text] :=
  List.splitOn_eq_singleton whole

/-- A line ends at the first newline. -/
theorem lines_append_newline (whole : '\n' ∉ line) (rest : Text) :
    (line ++ '\n' :: rest).lines = line :: rest.lines :=
  List.splitOn_append_cons_self_of_not_mem whole rest

/-- What holds of a last line, and of a text with one more line in front, holds of every
text. -/
theorem lineInduction {motive : Text → Prop} (last : ∀ line, '\n' ∉ line → motive line)
    (more : ∀ line rest, '\n' ∉ line → motive rest → motive (line ++ '\n' :: rest))
    (text : Text) : motive text := by
  by_cases newline : '\n' ∈ text
  · rcases List.eq_append_cons_of_mem newline with ⟨line, rest, equal, whole⟩
    rw [equal]
    exact more line rest whole (lineInduction last more rest)
  · exact last text newline
termination_by text.length
decreasing_by
  rw [equal, List.length_append, List.length_cons]
  omega

/-- A text has one more line than newlines. -/
theorem length_lines (text : Text) : text.lines.length = text.count '\n' + 1 := by
  induction text using lineInduction with
  | last line whole =>
      rw [lines_of_not_mem whole, List.count_eq_zero_of_not_mem whole]
      rfl
  | more line rest whole induction =>
      rw [lines_append_newline whole, List.length_cons, induction, List.count_append,
        List.count_eq_zero_of_not_mem whole, List.count_cons_self, Nat.zero_add]

theorem not_mem_of_mem_lines (member : line ∈ text.lines) : '\n' ∉ line := by
  induction text using lineInduction with
  | last only whole =>
      rw [lines_of_not_mem whole] at member
      exact List.mem_singleton.mp member ▸ whole
  | more first rest whole induction =>
      rw [lines_append_newline whole] at member
      cases member with
      | head => exact whole
      | tail _ member => exact induction member

theorem mem_of_mem_lines {character : Char} (member : line ∈ text.lines)
    (inLine : character ∈ line) : character ∈ text := by
  induction text using lineInduction with
  | last only whole =>
      rw [lines_of_not_mem whole] at member
      exact List.mem_singleton.mp member ▸ inLine
  | more first rest whole induction =>
      rw [lines_append_newline whole] at member
      cases member with
      | head => exact List.mem_append_left _ inLine
      | tail _ member =>
          exact List.mem_append_right _ (List.mem_cons_of_mem _ (induction member))

/-- The last line is empty just if there is nothing, or a newline at the end. -/
theorem getLast?_lines_eq_nil_iff :
    text.lines.getLast? = some [] ↔ text = [] ∨ text.getLast? = some '\n' := by
  induction text using lineInduction with
  | last line whole =>
      have noEnding : line.getLast? ≠ some '\n' := by
        intro ending
        exact whole (List.mem_of_getLast? ending)
      simp [lines_of_not_mem whole, noEnding]
  | more line rest whole induction =>
      rw [lines_append_newline whole, List.getLast?_cons_of_ne_nil (lines_ne_nil rest), induction,
        List.getLast?_append]
      cases rest with
      | nil => simp
      | cons first rest => simp

/-! ## Line endings -/

theorem not_mem_normalizeEndings : '\r' ∉ text.normalizeEndings := by
  fun_induction normalizeEndings text with
  | case1 rest induction =>
      intro member
      cases member with
      | tail _ member => exact induction member
  | case2 rest _ induction =>
      intro member
      cases member with
      | tail _ member => exact induction member
  | case3 character rest _ notReturn induction =>
      intro member
      cases member with
      | head => exact notReturn rfl
      | tail _ member => exact induction member
  | case4 => exact List.not_mem_nil

/-- Other line endings become newlines, and nothing else comes in. -/
theorem mem_of_mem_normalizeEndings {character : Char} (notNewline : character ≠ '\n')
    (member : character ∈ text.normalizeEndings) : character ∈ text := by
  fun_induction normalizeEndings text with
  | case1 rest induction =>
      rcases List.mem_cons.mp member with newline | member
      · exact absurd newline notNewline
      · simp [induction member]
  | case2 rest _ induction =>
      rcases List.mem_cons.mp member with newline | member
      · exact absurd newline notNewline
      · simp [induction member]
  | case3 first rest _ _ induction =>
      rcases List.mem_cons.mp member with rfl | member
      · exact List.mem_cons_self
      · simp [induction member]
  | case4 => exact member

theorem normalizeEndings_of_not_mem (plain : '\r' ∉ text) : text.normalizeEndings = text := by
  fun_induction normalizeEndings text with
  | case1 rest induction => exact absurd List.mem_cons_self plain
  | case2 rest _ induction => exact absurd List.mem_cons_self plain
  | case3 character rest _ _ induction =>
      rw [induction fun member => plain (List.mem_cons_of_mem _ member)]
  | case4 => rfl

end DumpLens.Text
