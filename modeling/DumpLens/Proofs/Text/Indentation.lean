import DumpLens.Proofs.Text.Lines
import DumpLens.Text.Indent

/-! Reindentation as it acts on lines. Each line has its own run of spaces at the front, and only
the length of that run changes, so the texts that stay as they are can be told from their runs. -/

namespace DumpLens.Indent

variable {text line : Text}

/-! ## Texts without newlines -/

/-- Reindentation brings in nothing but spaces. -/
theorem mem_of_mem_scan {width : Option Nat} {text : Text} {character : Char}
    (member : character ∈ scan width text) (notSpace : character ≠ ' ') : character ∈ text := by
  have kept {count : Nat} {rest : Text} (member : character ∈ List.replicate count ' ' ++ rest) :
      character ∈ rest := by
    rcases List.mem_append.mp member with space | member
    · exact absurd (List.eq_of_mem_replicate space) notSpace
    · exact member
  fun_induction scan width text with
  | case1 width => exact absurd (List.eq_of_mem_replicate member) notSpace
  | case2 width rest induction => exact List.mem_cons_of_mem _ (induction member)
  | case3 width rest induction =>
      cases kept member with
      | head => exact List.mem_cons_self
      | tail _ member => exact List.mem_cons_of_mem _ (induction member)
  | case4 width first rest _ _ induction =>
      cases kept member with
      | head => exact List.mem_cons_self
      | tail _ member => exact List.mem_cons_of_mem _ (induction member)
  | case5 => exact member
  | case6 rest induction =>
      cases member with
      | head => exact List.mem_cons_self
      | tail _ member => exact List.mem_cons_of_mem _ (induction member)
  | case7 first rest _ induction =>
      cases member with
      | head => exact List.mem_cons_self
      | tail _ member => exact List.mem_cons_of_mem _ (induction member)

theorem scan_append_newline {width : Option Nat} (whole : '\n' ∉ line) (rest : Text) :
    scan width (line ++ '\n' :: rest) = scan width line ++ '\n' :: compact rest := by
  induction line generalizing width with
  | nil => cases width <;> simp [scan, compact]
  | cons character line induction =>
      rw [List.mem_cons, not_or] at whole
      have notNewline : character ≠ '\n' := fun equal => whole.1 equal.symm
      cases width with
      | none => simp [scan, induction whole.2]
      | some width =>
          by_cases space : character = ' '
          · subst space
            simp [scan, induction whole.2]
          · simp [scan, induction whole.2]

theorem scan_none (whole : '\n' ∉ line) : scan none line = line := by
  induction line with
  | nil => rfl
  | cons character line induction =>
      rw [List.mem_cons, not_or] at whole
      have notNewline : character ≠ '\n' := fun equal => whole.1 equal.symm
      simp [scan, induction whole.2]

theorem not_mem_compact (whole : '\n' ∉ line) : '\n' ∉ compact line := by
  intro newline
  exact whole (mem_of_mem_scan newline (by decide))

/-! ## Single lines -/

/-- How many spaces a line starts with. -/
def width (line : Text) : Nat :=
  (line.takeWhile (· == ' ')).length

/-- A line with another number of spaces at its front. -/
def withWidth (count : Nat) (line : Text) : Text :=
  List.replicate count ' ' ++ line.drop (width line)

theorem width_cons_space (line : Text) : width (' ' :: line) = width line + 1 := by
  simp [width]

theorem width_cons_other {character : Char} (other : character ≠ ' ') (line : Text) :
    width (character :: line) = 0 := by
  simp [width, other]

@[simp] theorem withWidth_width (line : Text) : withWidth (width line) line = line := by
  induction line with
  | nil => rfl
  | cons character line induction =>
      by_cases space : character = ' '
      · subst space
        rw [withWidth, width_cons_space, List.replicate_succ, List.drop_succ_cons, List.cons_append]
        exact congrArg (' ' :: ·) induction
      · rw [withWidth, width_cons_other space]
        rfl

theorem width_withWidth (count : Nat) (line : Text) : width (withWidth count line) = count := by
  have noSpace : width (line.drop (width line)) = 0 := by
    induction line with
    | nil => rfl
    | cons character line induction =>
        by_cases space : character = ' '
        · subst space
          rwa [width_cons_space, List.drop_succ_cons]
        · rw [width_cons_other space, List.drop_zero, width_cons_other space]
  rw [withWidth]
  induction count with
  | zero => exact noSpace
  | succ count induction =>
      rw [List.replicate_succ, List.cons_append, width_cons_space, induction]

theorem withWidth_eq_self_iff {count : Nat} : withWidth count line = line ↔ count = width line := by
  constructor
  · intro same
    rw [← width_withWidth count line, same]
  · rintro rfl
    exact withWidth_width line

/-- Only the spaces at the front of a line become fewer. -/
theorem compact_line (whole : '\n' ∉ line) :
    compact line = withWidth (compactWidth (width line)) line := by
  have behind (before : Nat) : scan (some before) line =
      withWidth (compactWidth (before + width line)) line := by
    induction line generalizing before with
    | nil =>
        rw [scan, withWidth, List.drop_nil, List.append_nil]
        rfl
    | cons character line induction =>
        rw [List.mem_cons, not_or] at whole
        have notNewline : character ≠ '\n' := fun equal => whole.1 equal.symm
        by_cases space : character = ' '
        · subst space
          rw [scan, induction whole.2, width_cons_space, Nat.add_right_comm]
          simp [withWidth, width_cons_space, Nat.add_assoc]
        · simp [scan, scan_none whole.2, withWidth, width_cons_other space]
  rw [compact, behind 0, Nat.zero_add]

theorem exists_compact (whole : '\n' ∉ line) :
    ∃ width kept, line = List.replicate width ' ' ++ kept ∧
      compact line = List.replicate (compactWidth width) ' ' ++ kept :=
  ⟨width line, line.drop (width line), (withWidth_width line).symm, compact_line whole⟩

/-! ## Whole texts -/

theorem lines_compact (text : Text) :
    (compact text).lines =
      text.lines.map fun line => withWidth (compactWidth (width line)) line := by
  induction text using Text.lineInduction with
  | last line whole =>
      rw [Text.lines_of_not_mem whole, Text.lines_of_not_mem (not_mem_compact whole),
        compact_line whole]
      rfl
  | more line rest whole induction =>
      have parts : compact (line ++ '\n' :: rest) = compact line ++ '\n' :: compact rest :=
        scan_append_newline whole rest
      rw [parts, Text.lines_append_newline whole,
        Text.lines_append_newline (not_mem_compact whole), induction, compact_line whole,
        List.map_cons]

theorem compact_eq_self_iff :
    compact text = text ↔ ∀ line ∈ text.lines, compactWidth (width line) = width line := by
  have byLine : compact text = text ↔ (compact text).lines = text.lines.map id := by
    rw [List.map_id]
    constructor
    · exact congrArg Text.lines
    · intro same
      rw [← Text.unlines_lines (compact text), same, Text.unlines_lines]
  rw [byLine, lines_compact, List.map_inj_left]
  simp only [id, withWidth_eq_self_iff]

theorem compactWidth_eq_self_iff {count : Nat} : compactWidth count = count ↔ count ≤ 3 := by
  unfold compactWidth
  omega

/-- Spaces beyond five are still four or more when they have become fewer. -/
theorem compactWidth_le_three_iff {count : Nat} : compactWidth count ≤ 3 ↔ count ≤ 5 := by
  unfold compactWidth
  omega

/-- A text is reindented line by line: of the spaces at the front of a line two are left for every
four, and the rest of the line stays. So a text stays as it is just if no line starts with more than
three spaces, and it is the same after a second time just if no line starts with more than five. -/
theorem compact_actsOnLines (text : Text) :
    (compact text).lines = text.lines.map (fun line =>
      List.replicate (2 * (width line / 4) + width line % 4) ' ' ++ line.drop (width line)) ∧
    (compact text = text ↔ ∀ line ∈ text.lines, width line ≤ 3) ∧
    (compact (compact text) = compact text ↔ ∀ line ∈ text.lines, width line ≤ 5) := by
  refine ⟨lines_compact text, ?_, ?_⟩
  · simp only [compact_eq_self_iff, compactWidth_eq_self_iff]
  · rw [compact_eq_self_iff, lines_compact, List.forall_mem_map]
    simp only [width_withWidth, compactWidth_eq_self_iff, compactWidth_le_three_iff]

example : compact (compact "      x".toList) ≠ compact "      x".toList := by decide +kernel

end DumpLens.Indent
