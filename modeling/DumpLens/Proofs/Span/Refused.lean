import DumpLens.Proofs.Failure
import DumpLens.Proofs.Span.Direct
import DumpLens.Proofs.Span.Pattern
import DumpLens.Proofs.Text.Digits

/-! Lines whose annotations are refused. That is so for numerals with too many digits and for
nothing else. -/

namespace DumpLens

variable {line : Text} {lines : List Text}

/-! ## Lines that are refused -/

/-- The leftmost match in a line has these numerals as its groups. -/
def MatchesNumerals (line startLine startCol : Text) (endLine endCol : Option Text) : Prop :=
  ∃ file, (Pattern.note.search line).map PatternMatch.groups =
    some [some file, some startLine, some startCol, endLine, endCol]

/-- A line is refused for the first numeral of its leftmost match that is too long. Behind a
start on line zero no end is read. -/
inductive RefusedFor (line : Text) : Text → Prop
  | startLine {startLine startCol : Text} {endLine endCol : Option Text}
      (numerals : MatchesNumerals line startLine startCol endLine endCol)
      (long : Numeral.limit < startLine.length) : RefusedFor line startLine
  | startCol {startLine startCol : Text} {endLine endCol : Option Text}
      (numerals : MatchesNumerals line startLine startCol endLine endCol)
      (shortLine : startLine.length ≤ Numeral.limit)
      (long : Numeral.limit < startCol.length) : RefusedFor line startCol
  | endLine {startLine startCol endLine : Text} {endCol : Option Text}
      (numerals : MatchesNumerals line startLine startCol (some endLine) endCol)
      (shortLine : startLine.length ≤ Numeral.limit) (shortCol : startCol.length ≤ Numeral.limit)
      (onLine : Numeral.value startLine ≠ 0)
      (long : Numeral.limit < endLine.length) : RefusedFor line endLine
  | endCol {startLine startCol endLine endCol : Text}
      (numerals : MatchesNumerals line startLine startCol (some endLine) (some endCol))
      (shortLine : startLine.length ≤ Numeral.limit) (shortCol : startCol.length ≤ Numeral.limit)
      (onLine : Numeral.value startLine ≠ 0) (shortEnd : endLine.length ≤ Numeral.limit)
      (long : Numeral.limit < endCol.length) : RefusedFor line endCol

theorem matchesNumerals_iff {startLine startCol : Text} {endLine endCol : Option Text} :
    MatchesNumerals line startLine startCol endLine endCol ↔
      ∃ note : SpanNote, SpanNote.find? line = some note ∧ note.start = ⟨startLine, startCol⟩ ∧
        note.stop.map Position.line = endLine ∧ note.stop.map Position.column = endCol := by
  rw [MatchesNumerals, Pattern.search_note]
  constructor
  · rintro ⟨file, groups⟩
    rcases Option.map_eq_some_iff.mp groups with ⟨note, found, equal⟩
    cases equal
    exact ⟨note, found, rfl, rfl, rfl⟩
  · rintro ⟨note, found, start, rfl, rfl⟩
    refine ⟨note.file, ?_⟩
    rw [found, Option.map_some, SpanNote.groups, start]

/-- A line cannot be read just if it is refused for a numeral. -/
theorem parseSpan_eq_error_iff {refusal : Overlong} :
    parseSpan line = .error refusal ↔
      ∃ numeral, RefusedFor line numeral ∧ refusal = ⟨numeral.length⟩ := by
  constructor
  · intro refused
    cases found : SpanNote.find? line with
    | none =>
        rw [parseSpan, found] at refused
        cases refused
    | some note =>
        rw [parseSpan, found] at refused
        have numerals : MatchesNumerals line note.start.line note.start.column
            (note.stop.map Position.line) (note.stop.map Position.column) :=
          matchesNumerals_iff.mpr ⟨note, found, rfl, rfl, rfl⟩
        rcases bind_eq_error_iff.mp refused with failed | ⟨startLine, isLine, refused⟩
        · rcases Numeral.read_eq_error_iff.mp failed with ⟨long, rfl⟩
          exact ⟨_, .startLine numerals long, rfl⟩
        rcases Numeral.read_eq_ok_iff.mp isLine with ⟨shortLine, rfl⟩
        rcases bind_eq_error_iff.mp refused with failed | ⟨startCol, isCol, refused⟩
        · rcases Numeral.read_eq_error_iff.mp failed with ⟨long, rfl⟩
          exact ⟨_, .startCol numerals shortLine long, rfl⟩
        have shortCol := (Numeral.read_eq_ok_iff.mp isCol).1
        split at refused
        · cases refused
        · rename_i onLine
          cases isStop : note.stop with
          | none =>
              rw [isStop] at refused
              cases refused
          | some stop =>
              rw [isStop] at refused numerals
              rcases bind_eq_error_iff.mp refused with failed | ⟨endLine, isEndLine, refused⟩
              · rcases Numeral.read_eq_error_iff.mp failed with ⟨long, rfl⟩
                exact ⟨_, .endLine numerals shortLine shortCol onLine long, rfl⟩
              have shortEnd := (Numeral.read_eq_ok_iff.mp isEndLine).1
              rcases bind_eq_error_iff.mp refused with failed | ⟨endCol, _, refused⟩
              · rcases Numeral.read_eq_error_iff.mp failed with ⟨long, rfl⟩
                exact ⟨_, .endCol numerals shortLine shortCol onLine shortEnd long, rfl⟩
              · cases refused
  · rintro ⟨numeral, refusedFor, rfl⟩
    cases refusedFor with
    | startLine numerals long =>
        rcases matchesNumerals_iff.mp numerals with ⟨⟨file, _, stop⟩, found, rfl, _⟩
        simp only [parseSpan, found, SpanNote.span, Numeral.read_of_long long]
        rfl
    | startCol numerals shortLine long =>
        rcases matchesNumerals_iff.mp numerals with ⟨⟨file, _, stop⟩, found, rfl, _⟩
        simp only [parseSpan, found, SpanNote.span, Numeral.read_of_short shortLine,
          Numeral.read_of_long long]
        rfl
    | endLine numerals shortLine shortCol onLine long =>
        rcases matchesNumerals_iff.mp numerals with ⟨⟨file, _, stop⟩, found, rfl, isEnd, _⟩
        rcases Option.map_eq_some_iff.mp isEnd with ⟨stop, rfl, rfl⟩
        simp [parseSpan, found, SpanNote.span, Numeral.read_of_short shortLine,
          Numeral.read_of_short shortCol, onLine, Numeral.read_of_long long, bind, Except.bind]
    | endCol numerals shortLine shortCol onLine shortEnd long =>
        rcases matchesNumerals_iff.mp numerals with ⟨⟨file, _, stop⟩, found, rfl, isEnd, isCol⟩
        rcases Option.map_eq_some_iff.mp isEnd with ⟨stop, rfl, rfl⟩
        cases isCol
        simp [parseSpan, found, SpanNote.span, Numeral.read_of_short shortLine,
          Numeral.read_of_short shortCol, onLine, Numeral.read_of_short shortEnd,
          Numeral.read_of_long long, bind, Except.bind]

/-- An annotation that cannot be read has a numeral that is too long. -/
theorem limit_lt_of_parseSpan {refusal : Overlong} (refused : parseSpan line = .error refusal) :
    Numeral.limit < refusal.digits := by
  rcases parseSpan_eq_error_iff.mp refused with ⟨numeral, refusedFor, rfl⟩
  cases refusedFor <;> assumption

theorem exists_parseSpan_iff :
    (∃ own, parseSpan line = .ok own) ↔ ∀ numeral, ¬ RefusedFor line numeral := by
  constructor
  · rintro ⟨own, parsed⟩ numeral refusedFor
    have refused := parseSpan_eq_error_iff.mpr ⟨numeral, refusedFor, rfl⟩
    cases parsed.symm.trans refused
  · intro accepted
    cases parsed : parseSpan line with
    | ok own => exact ⟨own, rfl⟩
    | error refusal =>
        rcases parseSpan_eq_error_iff.mp parsed with ⟨numeral, refusedFor, _⟩
        exact absurd refusedFor (accepted numeral)

/-! ## Dumps that are refused -/

/-- A dump is refused for the first of its lines that is refused. -/
def FirstRefused (lines : List Text) (numeral : Text) : Prop :=
  ∃ front line behind, lines = front ++ line :: behind ∧
    (∀ earlier ∈ front, ∀ other, ¬ RefusedFor earlier other) ∧ RefusedFor line numeral

theorem directSpans_eq_error_iff {refusal : Overlong} :
    directSpans lines = .error refusal ↔
      ∃ numeral, FirstRefused lines numeral ∧ refusal = ⟨numeral.length⟩ := by
  simp only [directSpans, mapM_eq_error_iff, exists_parseSpan_iff, parseSpan_eq_error_iff]
  constructor
  · rintro ⟨front, line, behind, parts, accepted, numeral, refusedFor, size⟩
    exact ⟨numeral, ⟨front, line, behind, parts, accepted, refusedFor⟩, size⟩
  · rintro ⟨numeral, ⟨front, line, behind, parts, accepted, refusedFor⟩, size⟩
    exact ⟨front, line, behind, parts, accepted, numeral, refusedFor, size⟩

/-- All lines of a dump can be read just if none is refused. -/
theorem exists_directSpans_iff :
    (∃ direct, directSpans lines = .ok direct) ↔
      ∀ line ∈ lines, ∀ numeral, ¬ RefusedFor line numeral := by
  constructor
  · rintro ⟨direct, readable⟩ line isLine
    rcases List.mem_iff_getElem?.mp isLine with ⟨index, here⟩
    rcases directSpans_getElem? readable here with ⟨own, parsed, _⟩
    exact exists_parseSpan_iff.mp ⟨own, parsed⟩
  · intro accepted
    cases readable : directSpans lines with
    | ok direct => exact ⟨direct, rfl⟩
    | error refusal =>
        rcases directSpans_eq_error_iff.mp readable with ⟨numeral, ⟨_, line, _, rfl, _, refused⟩, _⟩
        exact absurd refused (accepted line (by simp) numeral)

end DumpLens
