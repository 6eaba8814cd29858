import DumpLens.Proofs.Block.Resolved
import Mathlib.Data.List.Permutation

/-! The innermost block wins. A line has its own span, or that of the innermost block with
a span around it. Blocks without spans, and braces without partners, do not matter. -/

namespace DumpLens

variable {lines : List Text} {direct : List (Option SourceSpan)}

/-- The span of a line follows the blocks with spans around it. -/
structure FollowsBlocks (lines : List Text) (direct : List (Option SourceSpan)) (line : Nat)
    (text : Text) (result : Option SourceSpan) : Prop where
  /-- The own span of a line goes before that of any block. -/
  own : ∀ span, parseSpan text = .ok (some span) → result = some span
  /-- A line without braces has the span of a block around it that stands in all others
  around it. -/
  innermost : parseSpan text = .ok none → '{' ∉ text → '}' ∉ text → ∀ span,
    result = some span ↔
      ∃ block : SpannedBlock, block.IsIn lines direct ∧ block.Covers line ∧ block.span = span ∧
        ∀ other : SpannedBlock, other.IsIn lines direct → other.Covers line →
          other = block ∨ block.Inside other
  /-- A line has no span only where no block covers it. -/
  uncovered : parseSpan text = .ok none →
    (result = none ↔ ∀ block : SpannedBlock, block.IsIn lines direct → ¬ block.Covers line)
  /-- On any line there is no block inside of the one that gives the span. -/
  nothingInside : parseSpan text = .ok none → ∀ span, result = some span →
    ∃ block : SpannedBlock, block.IsIn lines direct ∧ block.Covers line ∧ block.span = span ∧
      ∀ other : SpannedBlock, other.IsIn lines direct → other.Covers line → ¬ other.Inside block

/-- Around a line without braces, a block with none inside of it stands in all others. -/
theorem SpannedBlock.IsIn.innermost {block : SpannedBlock} {line : Nat} {text : Text}
    (isIn : block.IsIn lines direct) (covers : block.Covers line)
    (here : lines[line]? = some text) (noOpening : '{' ∉ text)
    (nothingInside : ∀ other : SpannedBlock, other.IsIn lines direct → other.Covers line →
      ¬ other.Inside block) (other : SpannedBlock) (otherIn : other.IsIn lines direct)
    (otherCovers : other.Covers line) : other = block ∨ block.Inside other := by
  rcases isIn.nested otherIn covers otherCovers here noOpening with equal | inside | around
  · exact .inl equal.symm
  · exact .inr inside
  · exact absurd around (nothingInside other otherIn otherCovers)

/-- The span that a line shows follows the blocks with spans around it. -/
theorem spanAt_followsBlocks {blocks : List Block} {line : Nat} {text : Text}
    {own : Option SourceSpan} (closed : ClosedBetween lines direct 0 lines.flatten.length blocks)
    (here : lines[line]? = some text) (parsed : parseSpan text = .ok own)
    (isOwn : direct[line]? = some own) :
    FollowsBlocks lines direct line text (spanAt blocks direct line) := by
  have withoutOwn (without : parseSpan text = .ok none) :
      spanAt blocks direct line = (shownBlock? blocks line).bind Block.span := by
    have nothing := Except.ok.inj (parsed.symm.trans without)
    rw [spanAt, isOwn, nothing]
    rfl
  constructor
  · intro span hasOwn
    have same := Except.ok.inj (parsed.symm.trans hasOwn)
    rw [spanAt, isOwn, same]
    rfl
  · intro without noOpening _ span
    rw [withoutOwn without]
    constructor
    · intro shows
      rcases shownBlock?_span_eq_some closed shows with ⟨block, isIn, covers, hasSpan, inside⟩
      exact ⟨block, isIn, covers, hasSpan, isIn.innermost covers here noOpening inside⟩
    · rintro ⟨block, isIn, covers, hasSpan, around⟩
      cases shows : (shownBlock? blocks line).bind Block.span with
      | none => exact absurd covers ((shownBlock?_span_eq_none_iff closed).mp shows block isIn)
      | some shown =>
          rcases shownBlock?_span_eq_some closed shows with
            ⟨other, otherIn, otherCovers, otherSpan, nothingInside⟩
          rcases around other otherIn otherCovers with same | inside
          · rw [← otherSpan, same, hasSpan]
          · exact absurd inside (nothingInside block isIn covers)
  · intro without
    rw [withoutOwn without]
    exact shownBlock?_span_eq_none_iff closed
  · intro without span shows
    rw [withoutOwn without] at shows
    exact shownBlock?_span_eq_some closed shows

/-- Where all annotations of a dump can be read, each of its lines gets a span that
follows the blocks around it. -/
theorem computeLineSpans_followsBlocks (readable : directSpans lines = .ok direct) :
    ∃ spans, computeLineSpans lines = .ok spans ∧ spans.length = lines.length ∧
      ∀ line text, lines[line]? = some text →
        ∃ result, spans[line]? = some result ∧ FollowsBlocks lines direct line text result := by
  rcases computeLineSpans_eq readable with ⟨blocks, closed, computed⟩
  refine ⟨_, computed, by rw [List.length_map, List.length_range], ?_⟩
  intro line text here
  have bound := (List.getElem?_eq_some_iff.mp here).1
  rcases directSpans_getElem? readable here with ⟨own, parsed, isOwn⟩
  refine ⟨spanAt blocks direct line, ?_, spanAt_followsBlocks closed here parsed isOwn⟩
  rw [List.getElem?_map, List.getElem?_range bound]
  rfl

/-- Two blocks that meet on a line, the second one without a span, inside of a block that
closes with a stray brace behind it. -/
def meetingBlocks : List Text :=
  ["fn f() \x7b", "a.rs:9:9: 9:10", "if x \x7b", "b.rs:2:5", "\x7d else \x7b", "", "\x7d",
    "\x7d", "\x7d"].map String.toList

theorem computeLineSpans_followsBlocks_meetingBlocks :
    ∃ direct, directSpans meetingBlocks = .ok direct ∧
      ∃ spans, computeLineSpans meetingBlocks = .ok spans ∧
        spans.length = meetingBlocks.length ∧
        ∀ line text, meetingBlocks[line]? = some text →
          ∃ result, spans[line]? = some result ∧
            FollowsBlocks meetingBlocks direct line text result := by
  have readable : directSpans meetingBlocks = .ok
      [none, some ⟨9, 9, 9, 10⟩, none, some ⟨2, 5, 2, 5⟩, none, none, none, none, none] := by
    cbv
  exact ⟨_, readable, computeLineSpans_followsBlocks readable⟩

end DumpLens
