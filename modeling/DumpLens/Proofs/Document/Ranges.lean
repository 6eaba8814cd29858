import DumpLens.Proofs.Document.Calls
import Mathlib

/-! Ranges of spans. A span that is read of a line and is within the bounds of an editor has a
range, unless it ends on line zero. So nothing else can keep the place of a line's source from
being found once the file is known. -/

namespace DumpLens

variable {span : SourceSpan} {range : EditorRange} {line : Text}

/-! ## Positions and ranges -/

theorem EditorPosition.make_eq_ok_iff {line character : Int} {position : EditorPosition} :
    make line character = .ok position ↔
      position.line = line ∧ position.character = character := by
  constructor
  · intro made
    unfold make at made
    split at made
    · split at made
      · cases made
        exact ⟨rfl, rfl⟩
      · cases made
    · cases made
  · rintro ⟨rfl, rfl⟩
    rw [make, dif_pos position.line_bounds, dif_pos position.character_bounds]

theorem EditorRange.make_eq_ok_iff {startLine startCharacter stopLine stopCharacter : Int} :
    make startLine startCharacter stopLine stopCharacter = .ok range ↔
      (range.start.line = startLine ∧ range.start.character = startCharacter) ∧
        range.stop.line = stopLine ∧ range.stop.character = stopCharacter := by
  rcases range with ⟨start, stop⟩
  rw [make, bind_eq_ok_iff]
  simp only [bind_eq_ok_iff, EditorPosition.make_eq_ok_iff]
  constructor
  · rintro ⟨first, isStart, last, isStop, ⟨⟩⟩
    exact ⟨isStart, isStop⟩
  · rintro ⟨isStart, isStop⟩
    exact ⟨start, isStart, stop, isStop, rfl⟩

/-- A range counts the lines and the columns of a span from zero. Its end is behind the last
column. -/
structure EditorRange.IsOf (range : EditorRange) (span : SourceSpan) : Prop where
  startLine : range.start.line = span.startLine - 1
  startCharacter : range.start.character = max (span.startCol - 1) 0
  stopLine : range.stop.line = span.endLine - 1
  stopCharacter : range.stop.character = span.endCol

theorem EditorRange.ofSpan_eq_ok_iff : ofSpan span = .ok range ↔ range.IsOf span := by
  rw [ofSpan, make_eq_ok_iff]
  constructor
  · rintro ⟨⟨startLine, startCharacter⟩, stopLine, stopCharacter⟩
    exact ⟨startLine, startCharacter, stopLine, stopCharacter⟩
  · rintro ⟨startLine, startCharacter, stopLine, stopCharacter⟩
    exact ⟨⟨startLine, startCharacter⟩, stopLine, stopCharacter⟩

theorem EditorRange.exists_ofLine {number : Nat} (inside : number ≤ PositionError.bound)
    (short : line.length ≤ PositionError.bound) : ∃ range, ofLine number line = .ok range := by
  let start : EditorPosition := ⟨number, 0, ⟨Int.natCast_nonneg _, inside⟩, by decide⟩
  let stop : EditorPosition :=
    ⟨number, line.length, ⟨Int.natCast_nonneg _, inside⟩, ⟨Int.natCast_nonneg _, short⟩⟩
  have isStart : EditorPosition.make number 0 = .ok start :=
    EditorPosition.make_eq_ok_iff.mpr ⟨rfl, rfl⟩
  have isStop : EditorPosition.make number line.length = .ok stop :=
    EditorPosition.make_eq_ok_iff.mpr ⟨rfl, rfl⟩
  exact ⟨⟨start, stop⟩, bind_eq_ok_iff.mpr ⟨_, isStart, bind_eq_ok_iff.mpr ⟨_, isStop, rfl⟩⟩⟩

/-! ## Spans of lines -/

namespace SourceSpan

/-- None of the numbers of a span is larger than a bound. -/
structure BoundedBy (span : SourceSpan) (bound : Int) : Prop where
  startLine : span.startLine ≤ bound
  startCol : span.startCol ≤ bound
  endLine : span.endLine ≤ bound
  endCol : span.endCol ≤ bound

/-- A span starts on a line that counts from one, and none of its numbers is negative. Its
columns and the line on which it ends may be zero. -/
structure Starts (span : SourceSpan) : Prop where
  startLine : 1 ≤ span.startLine
  startCol : 0 ≤ span.startCol
  endLine : 0 ≤ span.endLine
  endCol : 0 ≤ span.endCol

variable (starts : span.Starts) (bounded : span.BoundedBy PositionError.bound)
include starts bounded

theorem Starts.start_bounds :
    (0 ≤ span.startLine - 1 ∧ span.startLine - 1 ≤ PositionError.bound) ∧
      0 ≤ max (span.startCol - 1) 0 ∧ max (span.startCol - 1) 0 ≤ PositionError.bound := by
  have line := starts.startLine
  have lineBound := bounded.startLine
  have colBound := bounded.startCol
  rw [PositionError.bound] at *
  omega

theorem Starts.exists_range (ends : span.endLine ≠ 0) :
    ∃ range, EditorRange.ofSpan span = .ok range ∧ range.IsOf span := by
  rcases starts.start_bounds bounded with ⟨line, character⟩
  have stopLine : 0 ≤ span.endLine - 1 ∧ span.endLine - 1 ≤ PositionError.bound := by
    have lowest := starts.endLine
    have bound := bounded.endLine
    omega
  let range : EditorRange :=
    ⟨⟨_, _, line, character⟩, ⟨_, _, stopLine, starts.endCol, bounded.endCol⟩⟩
  have isOf : range.IsOf span := ⟨rfl, rfl, rfl, rfl⟩
  exact ⟨range, EditorRange.ofSpan_eq_ok_iff.mpr isOf, isOf⟩

/-- The line in front of line zero is none of an editor. -/
theorem Starts.ofSpan_of_endLine_eq_zero (ends : span.endLine = 0) :
    EditorRange.ofSpan span = .error (.line (-1)) := by
  rcases starts.start_bounds bounded with ⟨line, character⟩
  have made : EditorPosition.make (span.startLine - 1) (max (span.startCol - 1) 0) =
      .ok ⟨_, _, line, character⟩ := EditorPosition.make_eq_ok_iff.mpr ⟨rfl, rfl⟩
  rw [EditorRange.ofSpan, EditorRange.make, made, ends]
  rfl

end SourceSpan

/-- An annotation that starts on line zero denotes no span. -/
theorem starts_of_parseSpan (parsed : parseSpan line = .ok (some span)) : span.Starts := by
  rcases parseSpan_eq_some_iff.mp parsed with ⟨note, _, denotes⟩
  have denoted := (SpanNote.span_eq_some_iff.mp denotes).2
  unfold SpanNote.denoted at denoted
  split at denoted
  · cases denoted
  · rename_i someLine
    cases denoted
    refine ⟨?_, Int.natCast_nonneg _, Int.natCast_nonneg _, Int.natCast_nonneg _⟩
    exact Int.add_one_le_of_lt (Int.natCast_pos.mpr (Nat.pos_of_ne_zero someLine))

/-! ## Places of the source -/

/-- A place is refused for its range where the file is known and the span has no range. -/
theorem Document.definition_eq_position_iff {document : Document} {number : Int}
    (shows : document.spanAt number = some span) {uri : Text} {cause : PositionError} :
    document.definition uri number = .error (.position cause) ↔
      (∃ target, document.sourceUri? uri = .ok (some target)) ∧
        EditorRange.ofSpan span = .error cause := by
  simp [definition_eq_error_iff, shows]

/-- The spans of a document are read of its lines. -/
theorem Document.IsOf.exists_parseSpan {document : Document} {text : Text} {number : Int}
    (isOf : document.IsOf text) (shows : document.spanAt number = some span) :
    ∃ line ∈ document.lines, parseSpan line = .ok (some span) := by
  rw [isOf.lines]
  exact exists_parseSpan_of_computeLineSpans isOf.lineSpans
    (List.mem_of_getElem? (lineSpans_of_spanAt shows))

/-- No place is refused for its range in a document that has only spans within the bounds of
an editor and none that ends on line zero. -/
theorem Document.IsOf.definition_ne_position {document : Document} {text : Text}
    (isOf : document.IsOf text)
    (inBounds : ∀ line ∈ document.lines, ∀ span, parseSpan line = .ok (some span) →
      span.BoundedBy PositionError.bound ∧ span.endLine ≠ 0)
    (uri : Text) (number : Int) (cause : PositionError) :
    document.definition uri number ≠ .error (.position cause) := by
  intro refused
  rcases definition_eq_error_iff.mp refused with ⟨span, shows, _⟩
  rcases isOf.exists_parseSpan shows with ⟨line, member, parsed⟩
  rcases inBounds line member span parsed with ⟨bounded, ends⟩
  rcases (starts_of_parseSpan parsed).exists_range bounded ends with ⟨range, made, _⟩
  cases made.symm.trans ((definition_eq_position_iff shows).mp refused).2

/-- A span that is read of a line, with no number beyond the bounds of an editor, has a range,
and the place of a line with this span is never refused for its range. That is so for all spans
but those that end on line zero, which have no range. -/
theorem parseSpan_givesRange (parsed : parseSpan line = .ok (some span))
    (bounded : span.BoundedBy PositionError.bound) :
    (span.endLine ≠ 0 →
      (∃ range, EditorRange.ofSpan span = .ok range ∧ range.IsOf span) ∧
      ∀ (document : Document) (number : Int), document.spanAt number = some span →
        ∀ uri cause, document.definition uri number ≠ .error (.position cause)) ∧
    (span.endLine = 0 →
      EditorRange.ofSpan span = .error (.line (-1)) ∧
      ∀ (document : Document) (number : Int), document.spanAt number = some span →
        ∀ uri target, document.sourceUri? uri = .ok (some target) →
          document.definition uri number = .error (.position (.line (-1)))) := by
  have starts := starts_of_parseSpan parsed
  constructor
  · intro ends
    have hasRange := starts.exists_range bounded ends
    refine ⟨hasRange, ?_⟩
    intro document number shows uri cause refused
    rcases hasRange with ⟨range, made, _⟩
    cases made.symm.trans ((document.definition_eq_position_iff shows).mp refused).2
  · intro ends
    have noRange := starts.ofSpan_of_endLine_eq_zero bounded ends
    refine ⟨noRange, ?_⟩
    intro document number shows uri target found
    exact (document.definition_eq_position_iff shows).mpr ⟨⟨target, found⟩, noRange⟩

/-- A range that ends before it starts, with columns zero. -/
def backwardNote : Text := "a.rs:3:0: 2:0".toList

theorem parseSpan_givesRange_backwardNote :
    parseSpan backwardNote = .ok (some ⟨3, 0, 2, 0⟩) ∧
      ∃ range, EditorRange.ofSpan ⟨3, 0, 2, 0⟩ = .ok range ∧ range.IsOf ⟨3, 0, 2, 0⟩ := by
  have parsed : parseSpan backwardNote = .ok (some ⟨3, 0, 2, 0⟩) := by
    cbv
  have bounded : SourceSpan.BoundedBy ⟨3, 0, 2, 0⟩ PositionError.bound := by
    constructor <;> decide
  exact ⟨parsed, ((parseSpan_givesRange parsed bounded).1 (by decide)).1⟩

/-- An end on line zero behind a start that is on no such line. -/
def zeroEndNote : Text := "/a.rs:3:5: 0:7".toList

/-- A place of the source is asked for, and refused for the end of its range. -/
theorem definition_refused_zeroEndNote :
    parseSpan zeroEndNote = .ok (some ⟨3, 5, 0, 7⟩) ∧
      SourceSpan.BoundedBy ⟨3, 5, 0, 7⟩ PositionError.bound ∧
      EditorRange.ofSpan ⟨3, 5, 0, 7⟩ = .error (.line (-1)) ∧
      ((Documents.afterCalls [.opened "file:///d/x.mir".toList zeroEndNote]).call
        (.definition "file:///d/x.mir".toList 0)).1 = .error (.query (.position (.line (-1)))) := by
  refine ⟨by cbv, by constructor <;> decide, by cbv, by cbv⟩

end DumpLens
