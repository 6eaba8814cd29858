import DumpLens.Block.Tracking
import DumpLens.Span.Note

/-! The span of every line of a dump. Blocks are painted over the lines in the
order of falling length, so that inner blocks cover outer ones, and the direct
spans of the lines are painted last. -/

namespace DumpLens

/-- The spans of the lines of a dump, where lines may have none. -/
abbrev LineSpans := List (Option SourceSpan)

namespace LineSpans

/-- Writes the span of a block of the given length to all of its lines, which may be
counted from the front or, as negative ones, back from the end. -/
def paintBlock (spans : LineSpans) (block : Block) (length : Int) : Except SpanError LineSpans :=
  let last := block.openLine + length
  let covers := fun (line : Int) => block.openLine ≤ line ∧ line ≤ last
  if length < 0 then .ok spans
  else if block.openLine < -spans.length ∨ spans.length ≤ last then .error .lineOutOfRange
  else .ok (spans.mapIdx fun line span =>
    if covers line ∨ covers (line - spans.length) then block.span else span)

/-- Writes the direct spans of lines, in the order of the lines. -/
def paintDirect : LineSpans → List (Option SourceSpan) → Except SpanError LineSpans
  | spans, [] => .ok spans
  | span :: spans, direct :: rest => (paintDirect spans rest).map (direct.or span :: ·)
  | [], none :: rest => paintDirect [] rest
  | [], some _ :: _ => .error .lineOutOfRange

end LineSpans

/-- Blocks with their lengths, longest first. Blocks of one length keep their
order. -/
def sortByLength (blocks : List Block) : Except SpanError (List (Int × Block)) := do
  let measured ← blocks.mapM fun block => do
    let length ← block.length
    pure (length, block)
  pure (measured.mergeSort fun left right => right.1 ≤ left.1)

/-- Gives each of a number of lines its span: its direct span if it has one,
otherwise the span of the shortest block that covers it, the later one of equally
short ones. -/
def resolveLineSpans (count : Nat) (blocks : List Block) (direct : List (Option SourceSpan)) :
    Except SpanError LineSpans := do
  let sorted ← sortByLength blocks
  let painted ← sorted.foldlM
    (fun spans (length, block) => LineSpans.paintBlock spans block length)
    (List.replicate count none)
  LineSpans.paintDirect painted direct

def computeLineSpans (lines : List Text) : Except SpanError LineSpans := do
  let direct ← (directSpans lines).mapError fun refusal => .overlong refusal.digits
  let blocks ← trackBlocks lines direct
  resolveLineSpans lines.length blocks direct

end DumpLens
