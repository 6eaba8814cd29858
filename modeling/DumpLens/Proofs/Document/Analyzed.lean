import DumpLens.Document.Basic
import DumpLens.Proofs.Block.Resolved
import DumpLens.Proofs.Failure

/-! Documents as what was found in their texts. A text has a document just if its spans can
be found. -/

namespace DumpLens

variable {text : Text}

/-- A document has the lines of a text, their spans and the source file that they name. -/
structure Document.IsOf (document : Document) (text : Text) : Prop where
  source : document.source = text
  lines : document.lines = text.lines
  lineSpans : computeLineSpans text.lines = .ok document.lineSpans
  sourceFile : firstSpanFile text.lines = .ok document.sourceFile

theorem Document.analyze_eq_ok_iff {document : Document} :
    Document.analyze text = .ok document ↔ document.IsOf text := by
  constructor
  · intro analyzed
    rcases bind_eq_ok_iff.mp analyzed with ⟨lineSpans, computed, later⟩
    rcases bind_eq_ok_iff.mp later with ⟨sourceFile, named, last⟩
    cases last
    exact ⟨rfl, rfl, computed, mapError_eq_ok_iff.mp named⟩
  · rintro ⟨rfl, lines, computed, named⟩
    refine bind_eq_ok_iff.mpr ⟨_, computed, ?_⟩
    refine bind_eq_ok_iff.mpr ⟨_, mapError_eq_ok_iff.mpr named, ?_⟩
    rw [← lines]
    rfl

theorem Document.IsOf.length_eq {document : Document} (isOf : document.IsOf text) :
    document.lines.length = document.lineSpans.length := by
  rw [isOf.lines, length_computeLineSpans isOf.lineSpans]

theorem Document.exists_analyze {spans : LineSpans}
    (computed : computeLineSpans text.lines = .ok spans) :
    ∃ document, Document.analyze text = .ok document ∧ document.lineSpans = spans := by
  cases readable : directSpans text.lines with
  | error refusal =>
      rw [computeLineSpans_of_error readable] at computed
      cases computed
  | ok direct =>
      rcases exists_firstSpanFile readable with ⟨file, named⟩
      exact ⟨⟨text, text.lines, spans, file⟩,
        Document.analyze_eq_ok_iff.mpr ⟨rfl, rfl, computed, named⟩, rfl⟩

end DumpLens
