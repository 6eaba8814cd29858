import DumpLens.Block.Basic

/-! Tracking of brace blocks. Braces are matched in one pass over the lines,
wherever they stand on a line. The annotation of a line belongs to the block
that is innermost at the end of the line, and the last such annotation is the
block's span. -/

namespace DumpLens

/-- A block that is not closed yet. -/
structure OpenBlock where
  line : Nat
  span : Option SourceSpan
  deriving DecidableEq, Repr

namespace OpenBlock

/-- The block that a closing brace on the given line makes, if it has a span. -/
def close (block : OpenBlock) (line : Nat) : List Block :=
  match block.span with
  | some span => [⟨block.line, some line, some span⟩]
  | none => []

/-- Reads the braces of a line with the open blocks, innermost first. The result
is the blocks that are open afterwards and those that were closed, in order. A
closing brace without an open block is passed over. -/
def scanLine (line : Nat) : Text → List OpenBlock → List OpenBlock × List Block
  | [], stack => (stack, [])
  | '{' :: rest, stack => scanLine line rest (⟨line, none⟩ :: stack)
  | '}' :: rest, [] => scanLine line rest []
  | '}' :: rest, block :: stack =>
    let (final, closed) := scanLine line rest stack
    (final, block.close line ++ closed)
  | _ :: rest, stack => scanLine line rest stack

/-- Gives the innermost open block the span of a line that has one. -/
def annotate (span : Option SourceSpan) : List OpenBlock → List OpenBlock
  | [] => []
  | block :: stack => { block with span := span.or block.span } :: stack

/-- Reads lines from the given number on, each with its own span. -/
def scanLines (line : Nat) (stack : List OpenBlock) :
    List (Text × Option SourceSpan) → List Block
  | [] => []
  | (text, span) :: rest =>
    let (stack, closed) := scanLine line text stack
    closed ++ scanLines (line + 1) (annotate span stack) rest

end OpenBlock

/-- The closed blocks that have a span, in the order in which they close. Blocks
that are still open at the end are dropped. Every line needs an entry in the
list of direct spans. -/
def trackBlocks (lines : List Text) (direct : List (Option SourceSpan)) :
    Except SpanError (List Block) :=
  if lines.length ≤ direct.length then
    .ok (OpenBlock.scanLines 0 [] (lines.zip direct))
  else
    .error .missingEntry

end DumpLens
