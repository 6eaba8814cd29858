import DumpLens.Proofs.Block.Resolved
import DumpLens.Proofs.Span.Refused

/-! Dumps whose spans are refused. That is so for lines that are refused and for nothing else:
blocks are closed and lie within the dump, and every line has an entry. -/

namespace DumpLens

variable {lines : List Text}

/-- Whatever spans the lines of a dump have of their own, its blocks are closed and lie within
the dump, so that painting them over the lines gives each line an entry. -/
theorem exists_resolveLineSpans {direct : List (Option SourceSpan)}
    (sameLength : direct.length = lines.length) :
    ∃ blocks spans, trackBlocks lines direct = .ok blocks ∧
      (∀ block ∈ blocks, block.Fits lines.length) ∧
      resolveLineSpans lines.length blocks direct = .ok spans ∧ spans.length = lines.length := by
  rcases trackBlocks_closed (Nat.le_of_eq sameLength.symm) with ⟨blocks, tracked, closed⟩
  have resolved := resolveLineSpans_eq closed.fits (Nat.le_of_eq sameLength)
  refine ⟨blocks, _, tracked, closed.fits, resolved, ?_⟩
  rw [List.length_map, List.length_range]

/-- The spans of the lines of a dump are refused for the first numeral that is too long on the
first line that has one, and for nothing else. Otherwise each line has an entry. Whatever spans
the lines have of their own, neither an entry nor the end of a block is missing, and no block
reaches out of the dump. -/
theorem computeLineSpans_refusesOverlong (lines : List Text) :
    (∀ cause, computeLineSpans lines = .error cause ↔
      ∃ numeral, FirstRefused lines numeral ∧ cause = .overlong numeral.length) ∧
    ((∃ spans, computeLineSpans lines = .ok spans) ↔
      ∀ line ∈ lines, ∀ numeral, ¬ RefusedFor line numeral) ∧
    (∀ spans, computeLineSpans lines = .ok spans → spans.length = lines.length) ∧
    ∀ direct : List (Option SourceSpan), direct.length = lines.length →
      ∃ blocks spans, trackBlocks lines direct = .ok blocks ∧
        (∀ block ∈ blocks, block.Fits lines.length) ∧
        resolveLineSpans lines.length blocks direct = .ok spans ∧
        spans.length = lines.length := by
  refine ⟨?_, ?_, fun spans => length_computeLineSpans, fun direct => exists_resolveLineSpans⟩
  · intro cause
    constructor
    · intro refused
      cases readable : directSpans lines with
      | ok direct =>
          rcases computeLineSpans_eq readable with ⟨_, _, computed⟩
          cases refused.symm.trans computed
      | error refusal =>
          cases refused.symm.trans (computeLineSpans_of_error readable)
          rcases directSpans_eq_error_iff.mp readable with ⟨numeral, first, rfl⟩
          exact ⟨numeral, first, rfl⟩
    · rintro ⟨numeral, first, rfl⟩
      exact computeLineSpans_of_error (directSpans_eq_error_iff.mpr ⟨numeral, first, rfl⟩)
  · rw [← exists_directSpans_iff]
    constructor
    · rintro ⟨spans, computed⟩
      cases readable : directSpans lines with
      | ok direct => exact ⟨direct, rfl⟩
      | error refusal => cases computed.symm.trans (computeLineSpans_of_error readable)
    · rintro ⟨direct, readable⟩
      rcases computeLineSpans_eq readable with ⟨_, _, computed⟩
      exact ⟨_, computed⟩

end DumpLens
