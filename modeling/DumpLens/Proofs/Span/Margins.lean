import DumpLens.Proofs.Render.Shown
import DumpLens.Proofs.Text.Runs
import DumpLens.Span.Note

/-! The margins of lines: spaces in front of them and carriage returns at their ends. The
annotation of a line is the same with and without them. -/

namespace DumpLens

variable {member : Char → Bool} {mark : Char} {input line : Text}

theorem takeWhile_concat (stops : member mark = false) (input : Text) :
    (input ++ [mark]).takeWhile member = input.takeWhile member := by
  induction input with
  | nil => simp [stops]
  | cons character input induction => simp [List.takeWhile_cons, induction]

theorem dropWhile_concat (stops : member mark = false) (input : Text) :
    (input ++ [mark]).dropWhile member = input.dropWhile member ++ [mark] := by
  induction input with
  | nil => simp [stops]
  | cons character input induction =>
      rw [List.cons_append, List.dropWhile_cons, List.dropWhile_cons, induction]
      split <;> rfl

theorem isDigit_return : isDigit '\r' = false := by decide

/-- A carriage return behind a position is left in the rest. -/
theorem Position.at?_concat (input : Text) :
    Position.at? (input ++ ['\r']) =
      (Position.at? input).map fun reading => (reading.1, reading.2 ++ ['\r']) := by
  simp only [Position.at?, takeWhile_concat isDigit_return, dropWhile_concat isDigit_return]
  cases input.takeWhile isDigit with
  | nil => rfl
  | cons first digits =>
      cases input.dropWhile isDigit with
      | nil => rfl
      | cons next rest =>
          by_cases colon : next = ':'
          · subst colon
            simp only [List.cons_append, takeWhile_concat isDigit_return,
              dropWhile_concat isDigit_return]
            cases rest.takeWhile isDigit <;> rfl
          · simp [colon]

namespace SpanNote

theorem stopAt?_concat (input : Text) :
    (stopAt? (input ++ ['\r'])).1 = (stopAt? input).1 := by
  match input with
  | [] => rfl
  | [first] => by_cases colon : first = ':' <;> simp [stopAt?, colon]
  | first :: second :: rest =>
      by_cases starts : first = ':' ∧ second = ' '
      · rcases starts with ⟨rfl, rfl⟩
        simp only [stopAt?, List.cons_append, Position.at?_concat]
        cases Position.at? rest <;> rfl
      · have noStop (rest : Text) : (stopAt? (first :: second :: rest)).1 = none := by
          unfold stopAt?
          split
          · rename_i equal
            cases equal
            exact absurd ⟨rfl, rfl⟩ starts
          · rfl
        rw [List.cons_append, List.cons_append, noStop, noStop]

theorem at?_concat (input : Text) :
    (at? (input ++ ['\r'])).map Prod.fst = (at? input).map Prod.fst := by
  have noName : isNameChar '\r' = false := by decide
  simp only [at?, takeWhile_concat noName, dropWhile_concat noName]
  split
  · cases input.dropWhile isNameChar with
    | nil => rfl
    | cons first rest =>
        by_cases colon : first = ':'
        · subst colon
          simp only [List.cons_append, Position.at?_concat]
          cases Position.at? rest with
          | none => rfl
          | some reading => simp [stopAt?_concat]
        · simp [colon]
  · rfl

theorem find?_cons_eq_or (character : Char) (rest : Text) :
    find? (character :: rest) = ((at? (character :: rest)).map Prod.fst).or (find? rest) := by
  rw [find?_cons]
  cases at? (character :: rest) <;> rfl

/-- A carriage return at the end is no part of an annotation. -/
theorem find?_concat (line : Text) : find? (line ++ ['\r']) = find? line := by
  induction line with
  | nil => decide +kernel
  | cons character line induction =>
      rw [find?_cons_eq_or, ← induction, ← at?_concat]
      exact find?_cons_eq_or ..

/-- Spaces in front of a line are no part of an annotation. -/
theorem find?_replicate (width : Nat) (line : Text) :
    find? (List.replicate width ' ' ++ line) = find? line := by
  induction width with
  | zero => rfl
  | succ width induction =>
      have nothing (rest : Text) : at? (' ' :: rest) = none := rfl
      rw [List.replicate_succ, List.cons_append, find?_cons, nothing, induction]

end SpanNote

/-- A line has the annotation of the line that is shown for it. -/
theorem ShownAs.parseSpan_eq {shown : Text} (shownAs : ShownAs line shown) :
    parseSpan line = parseSpan shown := by
  have compacted {line : Text} (whole : '\n' ∉ line) :
      SpanNote.find? (Indent.compact line) = SpanNote.find? line := by
    rcases Indent.exists_compact whole with ⟨width, kept, rfl, compacted⟩
    rw [compacted, SpanNote.find?_replicate, SpanNote.find?_replicate]
  cases shownAs with
  | plain whole => rw [parseSpan, parseSpan, compacted whole]
  | returned whole => rw [parseSpan, parseSpan, compacted whole, SpanNote.find?_concat]

end DumpLens
