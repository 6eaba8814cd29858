import DumpLens.Proofs.Span.Direct
import DumpLens.Proofs.Span.Grammar

/-! The numbers of annotations. They are not negative, and none is too long to be written
and read again. -/

namespace DumpLens

/-- A number that is not negative and not too long to be read. -/
def IsReadable (number : Int) : Prop :=
  ∃ natural : Nat, number = natural ∧ (Text.ofNat natural).length ≤ Numeral.limit

structure SourceSpan.Readable (span : SourceSpan) : Prop where
  startLine : IsReadable span.startLine
  startCol : IsReadable span.startCol
  endLine : IsReadable span.endLine
  endCol : IsReadable span.endCol

theorem isReadable_of_read {digits : Text} {number : Nat}
    (isNumber : Numeral.read digits = .ok number) : IsReadable number :=
  ⟨number, rfl, Numeral.length_ofNat_le isNumber⟩

/-- An annotation denotes a span with its numbers. -/
theorem SpanNote.readable_span {note : SpanNote} {span : SourceSpan}
    (denotes : note.span = .ok (some span)) : span.Readable := by
  rcases span_eq_some_iff.mp denotes with ⟨short, denoted⟩
  have readable (numeral : Text) (member : numeral ∈ note.numerals) :
      IsReadable (Numeral.value numeral) :=
    isReadable_of_read (Numeral.read_of_short (short numeral member))
  unfold SpanNote.denoted at denoted
  split at denoted
  · cases denoted
  · cases denoted
    rcases note with ⟨file, start, stop⟩
    cases stop with
    | none =>
        have line := readable start.line (by simp [numerals])
        have column := readable start.column (by simp [numerals])
        exact ⟨line, column, line, column⟩
    | some stop =>
        exact ⟨readable start.line (by simp [numerals]),
          readable start.column (by simp [numerals]), readable stop.line (by simp [numerals]),
          readable stop.column (by simp [numerals])⟩

theorem readable_parseSpan {line : Text} {span : SourceSpan}
    (parsed : parseSpan line = .ok (some span)) : span.Readable := by
  rcases parseSpan_eq_some_iff.mp parsed with ⟨note, _, denotes⟩
  exact note.readable_span denotes

end DumpLens
